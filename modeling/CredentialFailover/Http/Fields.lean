/-
Header fields in writing: a line each, and an empty line after the last one.

A line ends with a line feed, which a carriage return may precede. A name is followed by a colon at once; blanks around a
value are left out. No more fields are read than there is room for.

Main facts: `readFrom_name`, `readFrom_value`, `readFrom_blank` (each part of a field is read off octet by octet).
-/
import CredentialFailover.Http.Header
import CredentialFailover.Http.Reading

namespace CredentialFailover.Http.Fields

open Ascii

/-- an octet of the name of a field -/
def isNameOctet (b : UInt8) : Bool :=
  isDigit b || (0x41 ≤ b && b ≤ 0x5A) || (0x61 ≤ b && b ≤ 0x7A) ||
    [0x21, 0x23, 0x24, 0x25, 0x26, 0x27, 0x2A, 0x2B, 0x2D, 0x2E, 0x5E, 0x5F, 0x60, 0x7C, 0x7E].contains b

/-- where a reading stands; names and values are held with their last octet first -/
inductive Place where
  /-- at the start of a line -/
  | start
  /-- after a carriage return at the start of a line -/
  | ending
  | name (octets : List UInt8)
  /-- among the blanks in front of a value -/
  | blank (name : List UInt8)
  | value (name octets : List UInt8)
  /-- after the carriage return that follows a value -/
  | turning (name octets : List UInt8)

/-- a field as it is kept, from octets with the last one first -/
def field (name octets : List UInt8) : String × List UInt8 :=
  (Ascii.lower (String.ofList (name.reverse.map fun b => Char.ofNat b.toNat)), trimValue octets.reverse)

/-- fields up to the empty line, with room for so many more names -/
def readFrom : Nat → Place → List UInt8 → Reading Headers
  | _, _, [] => .short
  | room, .start, b :: bs =>
    if b = carriageReturn then readFrom room .ending bs
    else if b = lineFeed then .done [] bs
    else if !isNameOctet b then .malformed
    else match room with
      | 0 => .malformed
      | room + 1 => readFrom room (.name [b]) bs
  | _, .ending, b :: bs => if b = lineFeed then .done [] bs else .malformed
  | room, .name n, b :: bs =>
    if isNameOctet b then readFrom room (.name (b :: n)) bs
    else if b = colon then readFrom room (.blank n) bs
    else .malformed
  | room, .blank n, b :: bs =>
    if isHeaderBlank b then readFrom room (.blank n) bs
    else if isValueOctet b then readFrom room (.value n [b]) bs
    else if b = carriageReturn then readFrom room (.turning n []) bs
    else if b = lineFeed then (readFrom room .start bs).map (field n [] :: ·)
    else .malformed
  | room, .value n v, b :: bs =>
    if isValueOctet b then readFrom room (.value n (b :: v)) bs
    else if b = carriageReturn then readFrom room (.turning n v) bs
    else if b = lineFeed then (readFrom room .start bs).map (field n v :: ·)
    else .malformed
  | room, .turning n v, b :: bs =>
    if b = lineFeed then (readFrom room .start bs).map (field n v :: ·) else .malformed

/-- fields up to the empty line, with room for so many -/
def read (room : Nat) (bs : List UInt8) : Reading Headers := readFrom room .start bs

/-- the end of a line -/
def lineEnd : List UInt8 := [carriageReturn, lineFeed]

/-- a field in writing -/
def writeOne (f : String × List UInt8) : List UInt8 := Utf8.bytes f.1 ++ [colon, space] ++ f.2 ++ lineEnd

/-- fields in writing, and the empty line -/
def write (fs : List (String × List UInt8)) : List UInt8 := fs.flatMap writeOne ++ lineEnd

/-- a name that a field can have -/
def isName (name : String) : Bool :=
  !name.toList.isEmpty && name.toList.all fun c => c.toNat < 0x80 && isNameOctet c.toNat.toUInt8

/-- a field that can be sent -/
def canBeSent (f : String × List UInt8) : Bool := isName f.1 && f.2.all isValueOctet

theorem readFrom_name (room : Nat) (n bs : List UInt8) {ns : List UInt8} (h : ∀ b ∈ ns, isNameOctet b = true) :
    readFrom room (.name n) (ns ++ colon :: bs) = readFrom room (.blank (ns.reverse ++ n)) bs := by
  induction ns generalizing n with
  | nil =>
    have : isNameOctet colon = false := by decide
    simp [readFrom, this]
  | cons b ns ih =>
    have hb := h b (List.mem_cons_self ..)
    simp [readFrom, hb, ih _ fun c hc => h c (List.mem_cons_of_mem _ hc)]

theorem readFrom_value (room : Nat) (n v bs : List UInt8) {vs : List UInt8} (h : ∀ b ∈ vs, isValueOctet b = true) :
    readFrom room (.value n v) (vs ++ lineEnd ++ bs) =
      (readFrom room .start bs).map (field n (vs.reverse ++ v) :: ·) := by
  induction vs generalizing v with
  | nil =>
    have : isValueOctet carriageReturn = false := by decide
    simp [lineEnd, readFrom, this]
  | cons b vs ih =>
    have hb := h b (List.mem_cons_self ..)
    have hvs := ih (b :: v) fun c hc => h c (List.mem_cons_of_mem _ hc)
    simp only [List.cons_append, readFrom, hb, if_true, hvs]
    simp

theorem readFrom_blank (room : Nat) (n bs : List UInt8) {vs : List UInt8} (h : ∀ b ∈ vs, isValueOctet b = true) :
    readFrom room (.blank n) (vs ++ lineEnd ++ bs) =
      (readFrom room .start bs).map (field n (vs.dropWhile isHeaderBlank).reverse :: ·) := by
  induction vs with
  | nil =>
    have hv : isValueOctet carriageReturn = false := by decide
    have hb : isHeaderBlank carriageReturn = false := by decide
    simp [lineEnd, readFrom, hv, hb]
  | cons b vs ih =>
    have hb := h b (List.mem_cons_self ..)
    have hvs : ∀ c ∈ vs, isValueOctet c = true := fun c hc => h c (List.mem_cons_of_mem _ hc)
    by_cases hs : isHeaderBlank b = true
    · have := ih hvs
      simp only [List.cons_append, readFrom, hs, if_true, this]
      simp [hs]
    · have := readFrom_value room n [b] bs hvs
      simp only [List.cons_append, readFrom, hs, hb, if_true, this]
      simp [hs]

theorem trimValue_dropWhile (v : List UInt8) : trimValue (v.dropWhile isHeaderBlank) = trimValue v := by
  have : (v.dropWhile isHeaderBlank).dropWhile isHeaderBlank = v.dropWhile isHeaderBlank := by
    induction v with
    | nil => rfl
    | cons b v ih => by_cases h : isHeaderBlank b = true <;> simp [h, ih]
  simp [trimValue, this]

theorem bytes_of_isName {name : String} (h : isName name = true) :
    ∃ b bs, Utf8.bytes name = b :: bs ∧ (∀ c ∈ b :: bs, isNameOctet c = true) ∧
      String.ofList ((b :: bs).map fun b => Char.ofNat b.toNat) = name := by
  simp only [isName, Bool.and_eq_true, Bool.not_eq_true', List.isEmpty_eq_false_iff, List.all_eq_true,
    decide_eq_true_eq] at h
  obtain ⟨hne, hall⟩ := h
  have hascii : ∀ c ∈ name.toList, c.toNat < 0x80 := fun c hc => (hall c hc).1
  have hbytes : Utf8.bytes name = name.toList.map fun c => c.toNat.toUInt8 := Utf8.encode_of_ascii hascii
  obtain ⟨c, cs, hcs⟩ := List.exists_cons_of_ne_nil hne
  refine ⟨c.toNat.toUInt8, cs.map fun c => c.toNat.toUInt8, by rw [hbytes, hcs]; rfl, ?_, ?_⟩
  · intro b hb
    rw [← List.map_cons (f := fun c : Char => c.toNat.toUInt8), ← hcs] at hb
    obtain ⟨d, hd, rfl⟩ := List.mem_map.1 hb
    exact (hall d hd).2
  · rw [← List.map_cons (f := fun c : Char => c.toNat.toUInt8), ← hcs, Utf8.map_ofNat_of_ascii hascii, String.ofList_toList]

end CredentialFailover.Http.Fields
