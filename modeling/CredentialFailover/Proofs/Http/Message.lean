/-
Answers as they are spelled, and their heads as they are read.

A message is spelled as a line with its version and status, a line for each of its fields, an empty line, and the octets
behind its head. Any words may stand behind the status, and any blanks around the value of a field; neither has a part in
what is read. There is room for so many fields, for names of some length, and for a head of some length; a message that
keeps to all of it has its head read, and one that does not is refused.

Main facts: `read_of_lines` (fields), `final_of_spelling` (the head of the answer proper), `final_of_no_room`.
-/
import CredentialFailover.Http.Exchange
import CredentialFailover.Proofs.Text.FixedWidth

namespace CredentialFailover.Http

open Ascii

/-! ## Fields -/

/-- the spellings of a field on its line, with blanks around its value -/
inductive FieldLine (f : String × List UInt8) : List UInt8 → Prop where
  | line {blanks : List UInt8} (hname : Fields.isName f.1 = true)
    (hblanks : ∀ b ∈ blanks, isHeaderBlank b = true) (hvalue : ∀ b ∈ f.2, isValueOctet b = true) :
    FieldLine f (Utf8.bytes f.1 ++ colon :: (blanks ++ f.2 ++ Fields.lineEnd))

/-- the spellings of fields, a line each -/
inductive FieldLines : Headers → List UInt8 → Prop where
  | nil : FieldLines [] []
  | cons {f : String × List UInt8} {fs : Headers} {line rest : List UInt8} (hf : FieldLine f line)
    (hfs : FieldLines fs rest) : FieldLines (f :: fs) (line ++ rest)

/-- fields as they are received: names in lower case, values without the blanks around them -/
def receive (fs : Headers) : Headers := fs.map fun f => (Ascii.lower f.1, trimValue f.2)

theorem isValueOctet_of_isHeaderBlank {b : UInt8} (h : isHeaderBlank b = true) : isValueOctet b = true := by
  simp only [isHeaderBlank, Bool.or_eq_true, beq_iff_eq] at h
  rcases h with rfl | rfl <;> decide

/-- blanks in front of a value are no part of it -/
theorem trimValue_append {blanks : List UInt8} (h : ∀ b ∈ blanks, isHeaderBlank b = true) (v : List UInt8) :
    trimValue (blanks ++ v) = trimValue v := by
  rw [trimValue, List.dropWhile_append_of_pos h, trimValue]

/-- a line begins with an octet of a name -/
theorem head_of_line {f : String × List UInt8} {line : List UInt8} (h : FieldLine f line) :
    ∃ b tail, line = b :: tail ∧ Fields.isNameOctet b = true ∧ b ≠ carriageReturn ∧ b ≠ lineFeed := by
  cases h with
  | line hname =>
    obtain ⟨b, ns, hbytes, hoctets, -⟩ := Fields.bytes_of_isName hname
    have hb := hoctets b (List.mem_cons_self ..)
    refine ⟨b, _, by rw [hbytes, List.cons_append], hb, ?_, ?_⟩
    · rintro rfl
      exact absurd hb (by decide)
    · rintro rfl
      exact absurd hb (by decide)

theorem readFrom_line {f : String × List UInt8} {line : List UInt8} (h : FieldLine f line) (room : ℕ) (bs : List UInt8) :
    Fields.readFrom (room + 1) .start (line ++ bs) =
      (Fields.readFrom room .start bs).map ((Ascii.lower f.1, trimValue f.2) :: ·) := by
  cases h with
  | @line blanks hname hblanks hvalue =>
    obtain ⟨b, ns, hbytes, hoctets, hback⟩ := Fields.bytes_of_isName hname
    have hb := hoctets b (List.mem_cons_self ..)
    have hreturn : b ≠ carriageReturn := by rintro rfl; exact absurd hb (by decide)
    have hfeed : b ≠ lineFeed := by rintro rfl; exact absurd hb (by decide)
    have hall : ∀ c ∈ blanks ++ f.2, isValueOctet c = true := by
      intro c hc
      rcases List.mem_append.1 hc with hc | hc
      · exact isValueOctet_of_isHeaderBlank (hblanks c hc)
      · exact hvalue c hc
    have hname := Fields.readFrom_name room [b] (blanks ++ f.2 ++ Fields.lineEnd ++ bs) fun c hc =>
      hoctets c (List.mem_cons_of_mem _ hc)
    have hvalue := Fields.readFrom_blank room (ns.reverse ++ [b]) bs hall
    have hfield : Fields.field (ns.reverse ++ [b]) ((blanks ++ f.2).dropWhile isHeaderBlank).reverse =
        (Ascii.lower f.1, trimValue f.2) := by
      simp only [Fields.field, List.reverse_append, List.reverse_reverse, List.reverse_singleton, List.singleton_append,
        hback, Fields.trimValue_dropWhile, trimValue_append hblanks]
    have hsplit : Utf8.bytes f.1 ++ colon :: (blanks ++ f.2 ++ Fields.lineEnd) ++ bs =
        b :: (ns ++ colon :: (blanks ++ f.2 ++ Fields.lineEnd ++ bs)) := by
      simp [hbytes]
    rw [hsplit, Fields.readFrom, if_neg hreturn, if_neg hfeed, if_neg (by simp [hb])]
    simp only [hname, hvalue, hfield]

/-- fields that can be sent are spelled as they are written -/
theorem fieldLines_write {fs : Headers} (h : ∀ f ∈ fs, Fields.canBeSent f = true) :
    FieldLines fs (fs.flatMap Fields.writeOne) := by
  induction fs with
  | nil => exact FieldLines.nil
  | cons f fs ih =>
    have hf := h f (List.mem_cons_self ..)
    simp only [Fields.canBeSent, Bool.and_eq_true, List.all_eq_true] at hf
    have hline : FieldLine f (Fields.writeOne f) := by
      have hspelled : FieldLine f (Utf8.bytes f.1 ++ colon :: ([space] ++ f.2 ++ Fields.lineEnd)) :=
        FieldLine.line hf.1 (List.forall_mem_singleton.2 rfl) hf.2
      simpa [Fields.writeOne] using hspelled
    exact FieldLines.cons hline (ih fun g hg => h g (List.mem_cons_of_mem _ hg))

/-- **Fields are read as they are spelled**, up to the empty line, if there is room for them. -/
theorem read_of_lines {fs : Headers} {lines : List UInt8} (h : FieldLines fs lines) {room : ℕ} (hroom : fs.length ≤ room)
    (rest : List UInt8) : Fields.read room (lines ++ Fields.lineEnd ++ rest) = .done (receive fs) rest := by
  induction h generalizing room with
  | nil => simp [Fields.read, Fields.lineEnd, Fields.readFrom, receive]
  | @cons f fs line more hf _ ih =>
    obtain ⟨room, rfl⟩ : ∃ n, room = n + 1 := Nat.exists_eq_succ_of_ne_zero (by rintro rfl; cases hroom)
    have hrest := ih (Nat.le_of_succ_le_succ hroom)
    simp only [Fields.read, List.append_assoc] at hrest ⊢
    rw [readFrom_line hf, hrest]
    rfl

/-- there is no room for more fields than that -/
theorem read_of_crowded {fs : Headers} {lines : List UInt8} (h : FieldLines fs lines) {room : ℕ} (hroom : room < fs.length)
    (rest : List UInt8) : Fields.read room (lines ++ rest) = .malformed := by
  induction h generalizing room with
  | nil => cases hroom
  | @cons f fs line more hf _ ih =>
    rw [List.append_assoc]
    cases room with
    | zero =>
      obtain ⟨b, tail, hline, hb, hreturn, hfeed⟩ := head_of_line hf
      simp [Fields.read, hline, Fields.readFrom, hb, hreturn, hfeed]
    | succ room =>
      have hrest := ih (Nat.lt_of_succ_lt_succ hroom)
      simp only [Fields.read] at hrest ⊢
      rw [readFrom_line hf, hrest]
      rfl

/-! ## Messages -/

/-- what an answer says: its status, its fields, and the octets behind its head -/
structure Message where
  status : ℕ
  fields : Headers
  octets : List UInt8

namespace Message

/-- the spellings of a message, with any words behind its status -/
inductive Spelling (m : Message) : List UInt8 → Prop where
  | message {words lines : List UInt8} (hwords : ∀ b ∈ words, isValueOctet b = true)
    (hlines : FieldLines m.fields lines) :
    Spelling m (Utf8.bytes "HTTP/1.1" ++ space :: (Utf8.bytes (toString m.status) ++ space :: (words ++ Fields.lineEnd ++
      (lines ++ Fields.lineEnd ++ m.octets))))

/-- what an answer says -/
def ofAnswer (a : Answer) : Message := ⟨a.status, a.headers, a.octets⟩

/-- an answer as it is sent is a spelling of what it says -/
theorem spelling_wire {a : Answer} (hwords : ∀ b ∈ Utf8.bytes a.reason, isValueOctet b = true)
    (hfields : ∀ f ∈ a.headers, Fields.canBeSent f = true) : (ofAnswer a).Spelling a.wire := by
  have hlines := fieldLines_write hfields
  have hwire : a.wire = Utf8.bytes "HTTP/1.1" ++ space :: (Utf8.bytes (toString a.status) ++ space ::
      (Utf8.bytes a.reason ++ Fields.lineEnd ++ (a.headers.flatMap Fields.writeOne ++ Fields.lineEnd ++ a.octets))) := by
    have hline : Utf8.bytes (" " ++ toString a.status ++ " " ++ a.reason) =
        space :: (Utf8.bytes (toString a.status) ++ space :: Utf8.bytes a.reason) := by
      have hspace : " ".toList.flatMap String.utf8EncodeChar = [space] := rfl
      simp only [Utf8.bytes, String.toList_append, Utf8.encode, List.flatMap_append, hspace, List.append_assoc,
        List.cons_append, List.nil_append]
    simp only [Answer.wire, hline, Fields.write, Head.version, List.append_assoc, List.cons_append]
  rw [hwire]
  exact Spelling.message hwords hlines

/-- there is room for a message as it is spelled: for its fields, their names, and its head as a whole -/
structure HasRoom (m : Message) (bs : List UInt8) : Prop where
  fields : m.fields.length ≤ 100
  names : ∀ f ∈ m.fields, f.1.length ≤ 65535
  head : bs.length ≤ m.octets.length + 417792

/-- the values under a name, which is given in lower case, as they are received -/
def values (m : Message) (name : String) : List (List UInt8) := (receive m.fields).values name

end Message

/-! ## Fields that are received as they are -/

/-- octets that can be sent, none of them a blank -/
def IsSolid (v : List UInt8) : Prop := ∀ b ∈ v, isValueOctet b = true ∧ isHeaderBlank b = false

instance (v : List UInt8) : Decidable (IsSolid v) := List.decidableBAll _ _

/-- a field that is received as it is: its name is in lower case, and its value has no blanks -/
def Stays (f : String × List UInt8) : Prop :=
  Fields.isName f.1 = true ∧ f.1.toList.map Char.toLower = f.1.toList ∧ IsSolid f.2

instance (f : String × List UInt8) : Decidable (Stays f) := inferInstanceAs (Decidable (_ ∧ _ ∧ _))

theorem trimValue_of_isSolid {v : List UInt8} (h : IsSolid v) : trimValue v = v := by
  have hkept : ∀ w : List UInt8, (∀ b ∈ w, isHeaderBlank b = false) → w.dropWhile isHeaderBlank = w := fun w hw =>
    List.dropWhile_eq_self_iff.2 fun hpos => by simp [hw _ (List.getElem_mem hpos)]
  have hclean : ∀ b ∈ v, isHeaderBlank b = false := fun b hb => (h b hb).2
  rw [trimValue, hkept v hclean, hkept v.reverse fun b hb => hclean b (List.mem_reverse.1 hb), List.reverse_reverse]

theorem Stays.canBeSent {f : String × List UInt8} (h : Stays f) : Fields.canBeSent f = true := by
  obtain ⟨hname, -, hvalue⟩ := h
  rw [Fields.canBeSent, hname, Bool.true_and, List.all_eq_true]
  exact fun b hb => (hvalue b hb).1

theorem receive_of_stays {fs : Headers} (h : ∀ f ∈ fs, Stays f) : receive fs = fs := by
  refine (List.map_congr_left fun f hf => ?_).trans (List.map_id fs)
  obtain ⟨-, hlower, hvalue⟩ := h f hf
  rw [Ascii.lower_of_toList hlower, trimValue_of_isSolid hvalue]
  rfl

/-- the values under a name, of fields that are received as they are -/
theorem values_of_stays {m : Message} (h : ∀ f ∈ m.fields, Stays f) {name : String}
    (hname : name.toList.map Char.toLower = name.toList) :
    m.values name = (m.fields.filter (·.1 == name)).map (·.2) := by
  rw [Message.values, receive_of_stays h, Headers.values, Ascii.lower_of_toList hname]

/-- an answer with no words behind its status, and with fields that are received as they are -/
theorem spelling_of_stays {a : Answer} (hreason : a.reason = "") (h : ∀ f ∈ a.headers, Stays f) :
    (Message.ofAnswer a).Spelling a.wire := by
  refine Message.spelling_wire ?_ fun f hf => (h f hf).canBeSent
  rw [hreason]
  exact nofun

/-! ## Lengths -/

theorem length_write (fs : Headers) :
    (Fields.write fs).length = (fs.map fun f => (Utf8.bytes f.1).length + f.2.length + 4).sum + 2 := by
  have hone : ∀ f, (Fields.writeOne f).length = (Utf8.bytes f.1).length + f.2.length + 4 := by
    intro f
    simp only [Fields.writeOne, Fields.lineEnd, List.length_append, List.length_cons, List.length_nil]
    omega
  simp only [Fields.write, List.length_append, List.length_flatMap, hone]
  rfl

/-- the length of an answer as it is sent: of its first line, of its fields, and of what is behind its head -/
theorem length_wire (a : Answer) :
    a.wire.length = (Head.version ++ Utf8.bytes (" " ++ toString a.status ++ " " ++ a.reason) ++ Fields.lineEnd).length +
      (Fields.write a.headers).length + a.octets.length := by
  rw [Answer.wire, List.length_append, List.length_append]

/-- whether there is room for an answer has nothing to do with what is behind its head -/
theorem hasRoom_of_head {status : ℕ} {reason : String} {headers : Headers} (octets : List UInt8)
    (h : (Message.ofAnswer ⟨status, reason, headers, []⟩).HasRoom (Answer.wire ⟨status, reason, headers, []⟩)) :
    (Message.ofAnswer ⟨status, reason, headers, octets⟩).HasRoom (Answer.wire ⟨status, reason, headers, octets⟩) := by
  refine ⟨h.fields, h.names, ?_⟩
  have hhead := h.head
  rw [length_wire] at hhead ⊢
  simp only [Message.ofAnswer, List.length_nil] at hhead ⊢
  omega

/-! ## Heads -/

theorem readDigits_digitChar {d left n : ℕ} (hd : d < 10) (rest : List UInt8) :
    Head.readDigits (left + 1) n (UInt8.ofNat (d + 48) :: rest) = Head.readDigits left (10 * n + d) rest := by
  have hall : ∀ d < 10, isDigit (UInt8.ofNat (d + 48)) = true ∧ digit (UInt8.ofNat (d + 48)) = d := by decide
  obtain ⟨hdigit, hvalue⟩ := hall d hd
  rw [Head.readDigits, if_pos hdigit, hvalue]

/-- a status is read from its three digits -/
theorem readDigits_status {n : ℕ} (hleast : 100 ≤ n) (hmost : n ≤ 999) (rest : List UInt8) :
    Head.readDigits 3 0 (Utf8.bytes (toString n) ++ rest) = .done n rest := by
  have hdigits : (toString n).toList =
      [Nat.digitChar (n / 10 / 10), Nat.digitChar (n / 10 % 10), Nat.digitChar (n % 10)] := by
    have hrepr : (toString n).toList = Nat.toDigits 10 n := Nat.toList_repr
    rw [hrepr, Nat.toDigits_of_base_le (by decide) (by omega), Nat.toDigits_of_base_le (by decide) (by omega),
      Nat.toDigits_of_lt_base (by omega)]
    rfl
  have hbytes : Utf8.bytes (toString n) =
      [UInt8.ofNat (n / 10 / 10 + 48), UInt8.ofNat (n / 10 % 10 + 48), UInt8.ofNat (n % 10 + 48)] := by
    rw [Utf8.bytes, hdigits]
    simp only [Utf8.encode, List.flatMap_cons, List.flatMap_nil, Text.encodeChar_digitChar (show n / 10 / 10 < 10 by omega),
      Text.encodeChar_digitChar (show n / 10 % 10 < 10 by omega), Text.encodeChar_digitChar (show n % 10 < 10 by omega)]
    rfl
  simp only [hbytes, List.cons_append, List.nil_append]
  rw [readDigits_digitChar (by omega), readDigits_digitChar (by omega), readDigits_digitChar (by omega), Head.readDigits]
  congr 1
  omega

theorem readWords_of_words {words : List UInt8} (h : ∀ b ∈ words, isValueOctet b = true) (rest : List UInt8) :
    Head.readWords (words ++ Fields.lineEnd ++ rest) = .done () rest := by
  induction words with
  | nil => rfl
  | cons b words ih =>
    have hb := h b (List.mem_cons_self ..)
    simp only [List.cons_append, Head.readWords, hb, if_true]
    exact ih fun c hc => h c (List.mem_cons_of_mem _ hc)

namespace Message

variable {m : Message} {bs : List UInt8}

/-- what comes of a head behind its first line -/
theorem readWhole_line {words rest : List UInt8} (hwords : ∀ b ∈ words, isValueOctet b = true) (hleast : 100 ≤ m.status)
    (hmost : m.status ≤ 999) :
    Head.readWhole (Utf8.bytes "HTTP/1.1" ++ space :: (Utf8.bytes (toString m.status) ++ space ::
      (words ++ Fields.lineEnd ++ rest))) =
      (Fields.read Head.maxFields rest).andThen fun headers rest =>
        if headers.any (Head.maxName < ·.1.length) then .malformed else .done ⟨false, m.status, headers⟩ rest := by
  have hempty : ∀ rest, Head.skipEmpty (Utf8.bytes "HTTP/1.1" ++ rest) = .done () (Utf8.bytes "HTTP/1.1" ++ rest) :=
    fun rest => rfl
  have hversion : ∀ rest, Head.readVersion (Utf8.bytes "HTTP/1.1" ++ rest) = .done false rest := fun rest => rfl
  have hspace : ∀ rest, Head.readSpace (space :: rest) = .done () rest := fun rest => rfl
  have hreason : Head.readReason (space :: (words ++ Fields.lineEnd ++ rest)) = .done () rest :=
    readWords_of_words hwords rest
  have hstatus : decide (m.status < 100) = false := decide_eq_false (by omega)
  simp only [Head.readWhole, hempty, hversion, hspace, readDigits_status hleast hmost, hreason, Reading.andThen_done,
    hstatus, Bool.false_or]

/-- names are as long as they are received -/
theorem any_receive (fs : Headers) :
    ((receive fs).any fun h => Head.maxName < h.1.length) = true ↔ ∃ f ∈ fs, 65535 < f.1.length := by
  have hlower : ∀ name : String, (Ascii.lower name).length = name.length := fun name => String.length_map
  simp [receive, hlower, Head.maxName]

/-- the head of a message, of any length: it is read if there is room for its fields and for their names -/
theorem readWhole_of_spelling (h : m.Spelling bs) (hleast : 100 ≤ m.status) (hmost : m.status ≤ 999) :
    Head.readWhole bs =
      if m.fields.length ≤ 100 ∧ ∀ f ∈ m.fields, f.1.length ≤ 65535 then .done ⟨false, m.status, receive m.fields⟩ m.octets
      else .malformed := by
  cases h with
  | @message words lines hwords hlines =>
    rw [readWhole_line hwords hleast hmost]
    by_cases hfields : m.fields.length ≤ Head.maxFields
    · rw [read_of_lines hlines hfields, Reading.andThen_done]
      by_cases hnames : ∃ f ∈ m.fields, 65535 < f.1.length
      · obtain ⟨f, hf, hlong⟩ := hnames
        rw [if_pos ((any_receive _).2 ⟨f, hf, hlong⟩), if_neg fun hall => absurd (hall.2 f hf) (Nat.not_le.2 hlong)]
      · have hshort : ∀ f ∈ m.fields, f.1.length ≤ 65535 := fun f hf => Nat.le_of_not_lt fun hlong => hnames ⟨f, hf, hlong⟩
        rw [if_neg fun hany => hnames ((any_receive _).1 hany), if_pos ⟨hfields, hshort⟩]
    · rw [List.append_assoc, read_of_crowded hlines (Nat.not_le.1 hfields), if_neg fun hall => hfields hall.1]
      rfl

/-- the head of a message is read as what the message says, if there is room for it -/
theorem read_of_spelling (h : m.Spelling bs) (hleast : 100 ≤ m.status) (hmost : m.status ≤ 999) (hroom : m.HasRoom bs) :
    Head.read bs = .done ⟨false, m.status, receive m.fields⟩ m.octets := by
  rw [Head.read, readWhole_of_spelling h hleast hmost, if_pos ⟨hroom.fields, hroom.names⟩]
  exact if_pos hroom.head

/-- a message that there is no room for has no head -/
theorem final_of_no_room (h : m.Spelling bs) (hleast : 100 ≤ m.status) (hmost : m.status ≤ 999) (hroom : ¬ m.HasRoom bs) :
    Head.final bs = .malformed := by
  have hread : Head.read bs = .malformed := by
    rw [Head.read, readWhole_of_spelling h hleast hmost]
    by_cases hfields : m.fields.length ≤ 100 ∧ ∀ f ∈ m.fields, f.1.length ≤ 65535
    · rw [if_pos hfields]
      exact if_neg fun hhead => hroom ⟨hfields.1, hfields.2, hhead⟩
    · rw [if_neg hfields]
  cases bs with
  | nil => cases h
  | cons b bs =>
    rw [Head.final, List.length_cons, Head.finalWithin, hread]
    rfl

/-- **A message that there is room for is the answer proper**, unless its status is one of those that come before it. -/
theorem final_of_spelling (h : m.Spelling bs) (hleast : 200 ≤ m.status) (hmost : m.status ≤ 999) (hroom : m.HasRoom bs) :
    Head.final bs = .done ⟨false, m.status, receive m.fields⟩ m.octets := by
  have hread := read_of_spelling h (by omega) hmost hroom
  refine Head.final_of_read ?_ hread ?_
  · rintro rfl
    cases h
  · simp only [Head.isInterim, Bool.and_eq_false_iff, decide_eq_false_iff_not]
    omega

end Message

end CredentialFailover.Http
