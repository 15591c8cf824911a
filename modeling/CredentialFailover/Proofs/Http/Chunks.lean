/-
A body in chunks is read as the octets of its chunks.

Every chunk announces its size on a line of its own, in hexadecimal, with blanks and an extension behind it if need be; the
chunk of size zero is the last one, and fields may come after it. The scan passes over all of it but the data
(`scan_of_line`, `scan_of_fieldLines`), so whatever the chunks are, the body is their data in order.

What is beside the data has its limits, and a body that passes one of them is broken.

Main facts: `read_of_spelling`; `scan_of_long_extension`, `scan_of_long_field`, `scan_of_crowded`.
-/
import CredentialFailover.Http.Chunks
import CredentialFailover.Proofs.Http.Message

namespace CredentialFailover.Http.Chunks

open Ascii

/-! ## Spellings -/

/-- hexadecimal digits, and the number that they go on to from another one -/
inductive Hexadecimal : ℕ → List UInt8 → ℕ → Prop where
  | nil {n : ℕ} : Hexadecimal n [] n
  | cons {n d v : ℕ} {b : UInt8} {ds : List UInt8} (hb : hexDigit? b = some d) (hds : Hexadecimal (16 * n + d) ds v) :
    Hexadecimal n (b :: ds) v

/-- the spellings of a size on its line, with so many octets in an extension behind it -/
inductive SizeLine (n : ℕ) : ℕ → List UInt8 → Prop where
  | plain {ds blanks : List UInt8} (hds : ds ≠ []) (hnumber : Hexadecimal 0 ds n)
    (hblanks : ∀ b ∈ blanks, isHeaderBlank b = true) : SizeLine n 0 (ds ++ (blanks ++ Fields.lineEnd))
  | extended {ds blanks ext : List UInt8} (hds : ds ≠ []) (hnumber : Hexadecimal 0 ds n)
    (hblanks : ∀ b ∈ blanks, isHeaderBlank b = true) (hext : ∀ b ∈ ext, b ≠ carriageReturn ∧ b ≠ lineFeed) :
    SizeLine n ext.length (ds ++ (blanks ++ 0x3B :: (ext ++ Fields.lineEnd)))

/-- what a body in chunks has beside its data: octets in extensions, fields at the end, and octets on their lines -/
structure Extras where
  extensions : ℕ
  fields : ℕ
  octets : ℕ

/-- nothing beside the data -/
def Extras.none : Extras := ⟨0, 0, 0⟩

/-- no more beside the data than there is room for -/
structure Extras.Fit (x : Extras) : Prop where
  extensions : x.extensions < octetLimit
  fields : x.fields ≤ maxFields
  octets : x.octets + 2 < octetLimit

/-- the spellings of a body, with what it has beside its data -/
inductive Spelling : Extras → List UInt8 → List UInt8 → Prop where
  | last {e : ℕ} {line trailer : List UInt8} {fs : Headers} (hline : SizeLine 0 e line) (htrailer : FieldLines fs trailer) :
    Spelling ⟨e, fs.length, trailer.length⟩ [] (line ++ (trailer ++ Fields.lineEnd))
  | chunk {e : ℕ} {x : Extras} {line data body rest : List UInt8} (hdata : data ≠ []) (hline : SizeLine data.length e line)
    (hrest : Spelling x body rest) :
    Spelling ⟨e + x.extensions, x.fields, x.octets⟩ (data ++ body) (line ++ (data ++ (Fields.lineEnd ++ rest)))

/-! ## Sizes -/

variable {staysOpen : Bool} {s t : Scan} {body rest : List UInt8} {b : UInt8} {n : ℕ}

/-- an octet that is no data, and does not end the body -/
theorem scan_step (hnext : s.next b = some t) (hplace : t.place ≠ .finished) (hdata : s.isData = false) :
    scan staysOpen s body (b :: rest) = scan staysOpen t body rest := by
  simp [scan, hnext, hplace, hdata]

/-- an octet that ends the body -/
theorem scan_end (hnext : s.next b = some t) (hplace : t.place = .finished) (hsound : t.isSound = true) :
    scan staysOpen s body (b :: rest) = .full body.reverse := by
  simp [scan, hnext, hplace, hsound]

theorem Hexadecimal.le {n v : ℕ} {ds : List UInt8} (h : Hexadecimal n ds v) : n ≤ v := by
  induction h with
  | nil => exact le_rfl
  | cons _ _ ih => omega

/-- the digits of a size, from one of them on -/
theorem scan_of_digits {v : ℕ} {ds : List UInt8} (h : Hexadecimal n ds v) (hv : v < sizeLimit) :
    scan staysOpen (s.goTo (.size n)) body (ds ++ rest) = scan staysOpen (s.goTo (.size v)) body rest := by
  induction h with
  | nil => rfl
  | @cons n d v b ds hb hds ih =>
    have hle := hds.le
    have hsized : (s.goTo (.size n)).next b = some (s.goTo (.size (16 * n + d))) := by
      have hroom : ¬ sizeLimit ≤ 16 * n + d := by omega
      simp [Scan.next, Scan.goTo, hb, Scan.sized, hroom]
    rw [List.cons_append, scan_step hsized (by simp [Scan.goTo]) rfl, ih hv]

theorem hexDigit?_of_isHeaderBlank (h : isHeaderBlank b = true) : hexDigit? b = none := by
  simp only [isHeaderBlank, Bool.or_eq_true, beq_iff_eq] at h
  rcases h with rfl | rfl <;> decide

theorem scan_of_padding {blanks : List UInt8} (h : ∀ b ∈ blanks, isHeaderBlank b = true) :
    scan staysOpen (s.goTo (.padding n)) body (blanks ++ rest) = scan staysOpen (s.goTo (.padding n)) body rest := by
  induction blanks with
  | nil => rfl
  | cons b blanks ih =>
    have hb := h b (List.mem_cons_self ..)
    have hnext : (s.goTo (.padding n)).next b = some (s.goTo (.padding n)) := by
      simp [Scan.next, Scan.goTo, Scan.afterSize, hb]
    rw [List.cons_append, scan_step hnext (by simp [Scan.goTo]) rfl, ih fun c hc => h c (List.mem_cons_of_mem _ hc)]

/-- the blanks behind a size, and the octet that ends them -/
theorem scan_behind_size {blanks : List UInt8} (hblanks : ∀ c ∈ blanks, isHeaderBlank c = true) (hb : hexDigit? b = none)
    (hnext : s.afterSize n b = some t) (hplace : t.place ≠ .finished) :
    scan staysOpen (s.goTo (.size n)) body (blanks ++ b :: rest) = scan staysOpen t body rest := by
  have hafter : ∀ p c, (s.goTo p).afterSize n c = s.afterSize n c := fun p c => rfl
  cases blanks with
  | nil =>
    have hstep : (s.goTo (.size n)).next b = some t := by
      simp only [Scan.next, Scan.goTo, hb] at hafter ⊢
      exact hnext
    exact scan_step hstep hplace rfl
  | cons c blanks =>
    have hc := hblanks c (List.mem_cons_self ..)
    have hpad : (s.goTo (.size n)).next c = some (s.goTo (.padding n)) := by
      simp [Scan.next, Scan.goTo, hexDigit?_of_isHeaderBlank hc, Scan.afterSize, hc]
    have hstep : (s.goTo (.padding n)).next b = some t := hnext
    rw [List.cons_append, scan_step hpad (by simp [Scan.goTo]) rfl,
      scan_of_padding fun c hc => hblanks c (List.mem_cons_of_mem _ hc), scan_step hstep hplace rfl]

/-- an extension up to the end of its line, if there is room for it -/
theorem scan_of_extension {ext : List UInt8} (hplace : s.place = .extension n)
    (hext : ∀ b ∈ ext, b ≠ carriageReturn ∧ b ≠ lineFeed) (hroom : s.passed + ext.length < octetLimit) :
    scan staysOpen s body (ext ++ carriageReturn :: rest) =
      scan staysOpen { s with place := .sizeEnd n, passed := s.passed + ext.length } body rest := by
  induction ext generalizing s with
  | nil =>
    have hnext : s.next carriageReturn = some (s.goTo (.sizeEnd n)) := by simp [Scan.next, hplace]
    exact scan_step hnext (by simp) (by simp [Scan.isData, hplace])
  | cons b ext ih =>
    obtain ⟨hreturn, hfeed⟩ := hext b (List.mem_cons_self ..)
    rw [List.length_cons] at hroom
    have hlimit : ¬ octetLimit ≤ s.passed + 1 := by omega
    have hnext : s.next b = some { s with passed := s.passed + 1 } := by simp [Scan.next, hplace, hreturn, hfeed, hlimit]
    have hrest : scan staysOpen { s with passed := s.passed + 1 } body (ext ++ carriageReturn :: rest) =
        scan staysOpen { s with place := .sizeEnd n, passed := s.passed + 1 + ext.length } body rest :=
      ih hplace (fun c hc => hext c (List.mem_cons_of_mem _ hc)) (by dsimp only; omega)
    have hcount : s.passed + (b :: ext).length = s.passed + 1 + ext.length := by
      rw [List.length_cons]
      omega
    rw [List.cons_append, scan_step hnext (by simp [hplace]) (by simp [Scan.isData, hplace]), hrest, hcount]

theorem scan_of_first_digits {ds : List UInt8} (hplace : s.place = .start) (hds : ds ≠ []) (h : Hexadecimal 0 ds n)
    (hn : n < sizeLimit) : scan staysOpen s body (ds ++ rest) = scan staysOpen (s.goTo (.size n)) body rest := by
  cases h with
  | nil => exact absurd rfl hds
  | @cons _ d _ b ds hb hds =>
    have hle := hds.le
    have hroom : d < sizeLimit := by omega
    have hsized : s.next b = some (s.goTo (.size (16 * 0 + d))) := by simp [Scan.next, hplace, hb, Scan.sized, hroom]
    rw [List.cons_append, scan_step hsized (by simp [Scan.goTo]) (by simp [Scan.isData, hplace]), scan_of_digits hds hn]

/-- where a scan goes on after a size: among fields after the last chunk, else among data -/
def behindSize (n : ℕ) : Place := if n = 0 then .line else .data (n - 1)

theorem scan_of_lineFeed (hplace : s.place = .sizeEnd n) :
    scan staysOpen s body (lineFeed :: rest) = scan staysOpen (s.goTo (behindSize n)) body rest := by
  have hnext : s.next lineFeed = some (s.goTo (behindSize n)) := by simp [Scan.next, hplace, behindSize]
  refine scan_step hnext ?_ (by simp [Scan.isData, hplace])
  unfold behindSize
  split <;> simp [Scan.goTo]

/-- a size on its line, with its extension -/
theorem scan_of_line {e : ℕ} {line : List UInt8} (h : SizeLine n e line) (hplace : s.place = .start) (hn : n < sizeLimit)
    (hroom : s.passed + e < octetLimit) :
    scan staysOpen s body (line ++ rest) =
      scan staysOpen { s with place := behindSize n, passed := s.passed + e } body rest := by
  have hreturn : s.afterSize n carriageReturn = some (s.goTo (.sizeEnd n)) := rfl
  have hsemicolon : s.afterSize n 0x3B = some (s.goTo (.extension n)) := rfl
  cases h with
  | plain hds hnumber hblanks =>
    simp only [List.append_assoc, Fields.lineEnd, List.cons_append, List.nil_append]
    rw [scan_of_first_digits hplace hds hnumber hn, scan_behind_size hblanks rfl hreturn (by simp [Scan.goTo]),
      scan_of_lineFeed rfl]
    rfl
  | @extended ds blanks ext hds hnumber hblanks hext =>
    have hextension : scan staysOpen (s.goTo (.extension n)) body (ext ++ carriageReturn :: lineFeed :: rest) =
        scan staysOpen { s with place := .sizeEnd n, passed := s.passed + ext.length } body (lineFeed :: rest) :=
      scan_of_extension rfl hext hroom
    simp only [List.append_assoc, Fields.lineEnd, List.cons_append, List.nil_append]
    rw [scan_of_first_digits hplace hds hnumber hn, scan_behind_size hblanks rfl hsemicolon (by simp [Scan.goTo]),
      hextension, scan_of_lineFeed rfl]
    rfl

/-! ## Data -/

/-- the octets of a chunk, up to the start of the next one -/
theorem scan_of_chunk {data : List UInt8} (hdata : data ≠ []) (hplace : s.place = behindSize data.length) :
    scan staysOpen s body (data ++ (Fields.lineEnd ++ rest)) =
      scan staysOpen (s.goTo .start) (data.reverse ++ body) rest := by
  obtain ⟨left, hleft⟩ := Nat.exists_eq_succ_of_ne_zero (mt List.length_eq_zero_iff.1 hdata)
  have hbehind : s.place = .data left := by simp [hplace, behindSize, hleft]
  rw [scan_of_data staysOpen s body hbehind hleft]
  have hreturn : (s.goTo .dataEnd).next carriageReturn = some (s.goTo .dataReturn) := rfl
  have hfeed : (s.goTo .dataReturn).next lineFeed = some (s.goTo .start) := rfl
  simp only [Fields.lineEnd, List.cons_append, List.nil_append]
  rw [scan_step hreturn (by simp [Scan.goTo]) rfl, scan_step hfeed (by simp [Scan.goTo]) rfl]

/-! ## Fields at the end -/

/-- a scan that has kept more octets at the end, in so many more lines -/
def Scan.kept (s : Scan) (ds : List UInt8) (more : ℕ) (p : Place) : Scan :=
  { s with place := p, fields := ds.reverse ++ s.fields, count := s.count + ds.length, lines := s.lines + more }

theorem kept_kept (s : Scan) (ds es : List UInt8) (m n : ℕ) (p q : Place) :
    (s.kept ds m p).kept es n q = s.kept (ds ++ es) (m + n) q := by
  simp [Scan.kept, Nat.add_assoc]

theorem keep_eq {p : Place} (h : s.count + 1 < octetLimit) : s.keep b p = some (s.kept [b] 0 p) := by
  have hroom : ¬ octetLimit ≤ s.count + 1 := by omega
  simp [Scan.keep, hroom, Scan.kept]

/-- a line of a field has a first octet, and no carriage return but at its end -/
theorem exists_of_fieldLine {f : String × List UInt8} {line : List UInt8} (h : FieldLine f line) :
    ∃ b ds, line = b :: ds ++ Fields.lineEnd ∧ ∀ c ∈ b :: ds, c ≠ carriageReturn := by
  cases h with
  | @line blanks hname hblanks hvalue =>
    obtain ⟨b, ns, hbytes, hoctets, -⟩ := Fields.bytes_of_isName hname
    refine ⟨b, ns ++ colon :: (blanks ++ f.2), by simp [hbytes], ?_⟩
    rintro c hc rfl
    have hmem : carriageReturn ∈ (b :: ns) ++ colon :: (blanks ++ f.2) := hc
    rcases List.mem_append.1 hmem with hc | hc
    · exact absurd (hoctets _ hc) (by decide)
    · rcases List.mem_cons.1 hc with hc | hc
      · exact absurd hc (by decide)
      · rcases List.mem_append.1 hc with hc | hc
        · exact absurd (hblanks _ hc) (by decide)
        · exact absurd (hvalue _ hc) (by decide)

/-- octets inside a line of a field -/
theorem scan_of_field_octets {ds : List UInt8} (hplace : s.place = .field) (hds : ∀ c ∈ ds, c ≠ carriageReturn)
    (hroom : s.count + ds.length < octetLimit) :
    scan staysOpen s body (ds ++ rest) = scan staysOpen (s.kept ds 0 .field) body rest := by
  induction ds generalizing s with
  | nil =>
    have hsame : s.kept [] 0 .field = s := by simp [Scan.kept, ← hplace]
    rw [List.nil_append, hsame]
  | cons b ds ih =>
    rw [List.length_cons] at hroom
    have hb := hds b (List.mem_cons_self ..)
    have hnext : s.next b = some (s.kept [b] 0 .field) := by
      simp only [Scan.next, hplace, if_neg hb]
      exact keep_eq (by omega)
    have hcount : (s.kept [b] 0 .field).count = s.count + 1 := rfl
    rw [List.cons_append, scan_step hnext (by simp [Scan.kept]) (by simp [Scan.isData, hplace]),
      ih rfl (fun c hc => hds c (List.mem_cons_of_mem _ hc)) (by omega), kept_kept]
    rfl

/-- the octets of a field on its line, up to its end -/
theorem scan_to_fieldReturn {ds : List UInt8} (hplace : s.place = .line) (hds : ∀ c ∈ b :: ds, c ≠ carriageReturn)
    (hroom : s.count + ds.length + 2 < octetLimit) :
    scan staysOpen s body (b :: ds ++ carriageReturn :: rest) =
      scan staysOpen (s.kept (b :: ds ++ [carriageReturn]) 0 .fieldReturn) body rest := by
  have hb := hds b (List.mem_cons_self ..)
  have hfirst : s.next b = some (s.kept [b] 0 .field) := by
    simp only [Scan.next, hplace, ne_eq, hb, not_false_eq_true, if_true]
    exact keep_eq (by omega)
  have hinside : ∀ rest, scan staysOpen (s.kept [b] 0 .field) body (ds ++ rest) =
      scan staysOpen (s.kept (b :: ds) 0 .field) body rest := by
    intro rest
    have hcount : (s.kept [b] 0 .field).count = s.count + 1 := rfl
    rw [scan_of_field_octets rfl (fun c hc => hds c (List.mem_cons_of_mem _ hc)) (by omega), kept_kept]
    rfl
  have hreturn : (s.kept (b :: ds) 0 .field).next carriageReturn =
      some (s.kept (b :: ds ++ [carriageReturn]) 0 .fieldReturn) := by
    have hcount : (s.kept (b :: ds) 0 .field).count = s.count + (ds.length + 1) := rfl
    refine (keep_eq (by omega)).trans ?_
    rw [kept_kept]
    rfl
  rw [List.cons_append, scan_step hfirst (by simp [Scan.kept]) (by simp [Scan.isData, hplace]), hinside]
  exact scan_step hreturn (by simp [Scan.kept]) rfl

/-- a field on its line -/
theorem scan_of_fieldLine {f : String × List UInt8} {line : List UInt8} (h : FieldLine f line) (hplace : s.place = .line)
    (hlines : s.lines < maxFields) (hroom : s.count + line.length < octetLimit) :
    scan staysOpen s body (line ++ rest) = scan staysOpen (s.kept line 1 .line) body rest := by
  obtain ⟨b, ds, rfl, hds⟩ := exists_of_fieldLine h
  simp only [Fields.lineEnd, List.length_append, List.length_cons, List.length_nil] at hroom
  have hfeed : (s.kept (b :: ds ++ [carriageReturn]) 0 .fieldReturn).next lineFeed =
      some (s.kept (b :: ds ++ Fields.lineEnd) 1 .line) := by
    have hnext : (s.kept (b :: ds ++ [carriageReturn]) 0 .fieldReturn).next lineFeed =
        (s.kept (b :: ds ++ [carriageReturn]) 1 .fieldReturn).keep lineFeed .line := by
      simp [Scan.next, Scan.kept, hlines]
    have hcount : (s.kept (b :: ds ++ [carriageReturn]) 1 .fieldReturn).count = s.count + (ds.length + 2) := by
      simp [Scan.kept]
    rw [hnext, keep_eq (by omega), kept_kept]
    simp [Fields.lineEnd]
  have hreturn : scan staysOpen s body (b :: ds ++ carriageReturn :: lineFeed :: rest) = _ :=
    scan_to_fieldReturn hplace hds (by omega)
  have hsplit : b :: ds ++ Fields.lineEnd ++ rest = b :: ds ++ carriageReturn :: lineFeed :: rest := by simp [Fields.lineEnd]
  rw [hsplit, hreturn]
  exact scan_step hfeed (by simp [Scan.kept]) rfl

/-- fields at the end, each on its line -/
theorem scan_of_fieldLines {fs : Headers} {lines : List UInt8} (h : FieldLines fs lines) (hplace : s.place = .line)
    (hlines : s.lines + fs.length ≤ maxFields) (hroom : s.count + lines.length < octetLimit) :
    scan staysOpen s body (lines ++ rest) = scan staysOpen (s.kept lines fs.length .line) body rest := by
  induction h generalizing s with
  | nil =>
    have hsame : s.kept [] 0 .line = s := by simp [Scan.kept, ← hplace]
    rw [List.nil_append, List.length_nil, hsame]
  | @cons f fs line lines hf _ ih =>
    rw [List.length_cons] at hlines
    rw [List.length_append] at hroom
    have hcount : (s.kept line 1 .line).count = s.count + line.length := rfl
    have hpassed : (s.kept line 1 .line).lines = s.lines + 1 := rfl
    rw [List.append_assoc, scan_of_fieldLine hf hplace (by omega) (by omega), ih rfl (by omega) (by omega), kept_kept,
      List.length_cons, Nat.add_comm 1]

/-! ## Bodies -/

/-- the empty line at the end of a body -/
theorem scan_of_end {fs : Headers} {lines : List UInt8} (h : FieldLines fs lines) (hplace : s.place = .line)
    (hfields : s.fields = lines.reverse) (hlines : fs.length ≤ s.lines) (hroom : s.count + 2 < octetLimit) :
    scan staysOpen s body (Fields.lineEnd ++ rest) = .full body.reverse := by
  simp only [Fields.lineEnd, List.cons_append, List.nil_append]
  by_cases hempty : lines = []
  · have hnone : s.fields = [] := by simp [hfields, hempty]
    have hreturn : s.next carriageReturn = some (s.goTo .lastReturn) := by simp [Scan.next, hplace, hnone]
    have hfeed : (s.goTo .lastReturn).next lineFeed = some (s.goTo .finished) := by
      simp [Scan.next, Scan.goTo, hnone]
    have hsound : (s.goTo .finished).isSound = true := by simp [Scan.isSound, Scan.goTo, hnone]
    rw [scan_step hreturn (by simp [Scan.goTo]) (by simp [Scan.isData, hplace]), scan_end hfeed rfl hsound]
  · have hsome : s.fields ≠ [] := by simp [hfields, hempty]
    have hreturn : s.next carriageReturn = some (s.kept [carriageReturn] 0 .lastReturn) := by
      simp only [Scan.next, hplace, ne_eq, not_true, if_false, List.isEmpty_iff, hsome]
      exact keep_eq (by omega)
    have hfeed : (s.kept [carriageReturn] 0 .lastReturn).next lineFeed = some (s.kept Fields.lineEnd 0 .finished) := by
      have hcount : (s.kept [carriageReturn] 0 .lastReturn).count = s.count + 1 := rfl
      refine (keep_eq (by omega)).trans ?_
      rw [kept_kept]
      rfl
    have hsound : (s.kept Fields.lineEnd 0 .finished).isSound = true := by
      have hkept : (s.kept Fields.lineEnd 0 .finished).fields.reverse = lines ++ Fields.lineEnd ++ [] := by
        simp [Scan.kept, hfields]
      have hread : Fields.read (s.kept Fields.lineEnd 0 .finished).lines (lines ++ Fields.lineEnd ++ []) = _ :=
        read_of_lines h hlines []
      simp only [Scan.isSound, hkept, hread, Bool.or_true]
    rw [scan_step hreturn (by simp [Scan.kept]) (by simp [Scan.isData, hplace]), scan_end hfeed rfl hsound]

/-- **The body is the data of its chunks**, whatever comes behind it, if there is room for what it has beside them. -/
theorem scan_of_spelling {x : Extras} {content octets : List UInt8} (h : Spelling x content octets)
    (hplace : s.place = .start) (hpassed : s.passed + x.extensions < octetLimit) (hfields : x.fields ≤ maxFields)
    (hoctets : x.octets + 2 < octetLimit) (hsize : content.length < sizeLimit) (hempty : s.fields = [])
    (hcount : s.count = 0) (hlines : s.lines = 0) :
    scan staysOpen s body (octets ++ rest) = .full (body.reverse ++ content) := by
  induction h generalizing s body with
  | @last e line trailer fs hline htrailer =>
    have hsized : scan staysOpen s body (line ++ (trailer ++ (Fields.lineEnd ++ rest))) =
        scan staysOpen { s with place := .line, passed := s.passed + e } body (trailer ++ (Fields.lineEnd ++ rest)) :=
      scan_of_line hline hplace (by decide) hpassed
    dsimp only at hfields hoctets
    simp only [List.append_assoc, List.append_nil]
    rw [hsized, scan_of_fieldLines htrailer rfl (by dsimp only; omega) (by dsimp only; omega)]
    exact scan_of_end htrailer rfl (by simp [Scan.kept, hempty]) (by simp [Scan.kept]) (by simp only [Scan.kept]; omega)
  | @chunk e x line data content more hdata hline _ ih =>
    dsimp only at hpassed
    rw [List.length_append] at hsize
    have hsized : scan staysOpen s body (line ++ (data ++ (Fields.lineEnd ++ (more ++ rest)))) = _ :=
      scan_of_line hline hplace (by omega) (by omega)
    have hmore : scan staysOpen { s with place := .start, passed := s.passed + e } (data.reverse ++ body) (more ++ rest) =
        .full ((data.reverse ++ body).reverse ++ content) :=
      ih rfl (by dsimp only; omega) hfields hoctets (by omega) hempty hcount hlines
    simp only [List.append_assoc]
    rw [hsized, scan_of_chunk hdata rfl]
    exact hmore.trans (by simp)

theorem read_of_spelling {x : Extras} {content octets : List UInt8} (h : Spelling x content octets) (hx : x.Fit)
    (hsize : content.length < sizeLimit) (staysOpen : Bool) (rest : List UInt8) :
    read staysOpen (octets ++ rest) = .full content :=
  scan_of_spelling h rfl (by simpa [Scan.start] using hx.extensions) hx.fields hx.octets hsize rfl rfl rfl

/-! ## Too much beside the data -/

/-- octets that are counted are refused, at the latest where there is no more room for them -/
theorem scan_of_overrun (inside : Scan → ℕ → Prop) {ds : List UInt8}
    (hstep : ∀ s n, inside s n → ∀ b ∈ ds, ∀ t, s.next b = some t → n + 1 < octetLimit ∧ inside t (n + 1))
    (hplace : ∀ s n, inside s n → s.place ≠ .finished ∧ s.isData = false) (h : inside s n) (hn : n < octetLimit)
    (hroom : octetLimit ≤ n + ds.length) : scan staysOpen s body (ds ++ rest) = .broken := by
  induction ds generalizing s n with
  | nil => exact absurd hroom (by simpa using hn)
  | cons b ds ih =>
    rw [List.length_cons] at hroom
    rw [List.cons_append]
    cases hnext : s.next b with
    | none => simp only [scan, hnext]
    | some t =>
      obtain ⟨hlimit, hinside⟩ := hstep s n h b (List.mem_cons_self ..) t hnext
      rw [scan_step hnext (hplace t _ hinside).1 (hplace s _ h).2]
      exact ih (fun s n h c hc => hstep s n h c (List.mem_cons_of_mem _ hc)) hinside hlimit (by omega)

/-- an extension that is too long -/
theorem scan_of_long_extension {ext : List UInt8} (hplace : s.place = .extension n) (hext : ∀ b ∈ ext, b ≠ carriageReturn)
    (hpassed : s.passed < octetLimit) (hroom : octetLimit ≤ s.passed + ext.length) :
    scan staysOpen s body (ext ++ rest) = .broken := by
  refine scan_of_overrun (fun s m => s.place = .extension n ∧ s.passed = m) ?_ ?_ ⟨hplace, rfl⟩ hpassed hroom
  · rintro s m ⟨hplace, rfl⟩ b hb t hnext
    simp only [Scan.next, hplace, if_neg (hext b hb)] at hnext
    split at hnext
    · cases hnext
    · obtain rfl := Option.some.inj hnext
      exact ⟨by omega, rfl, rfl⟩
  · rintro s m ⟨hplace, -⟩
    simp [Scan.isData, hplace]

/-- a field at the end that is too long -/
theorem scan_of_long_field {ds : List UInt8} (hplace : s.place = .field) (hds : ∀ b ∈ ds, b ≠ carriageReturn)
    (hcount : s.count < octetLimit) (hroom : octetLimit ≤ s.count + ds.length) :
    scan staysOpen s body (ds ++ rest) = .broken := by
  refine scan_of_overrun (fun s m => s.place = .field ∧ s.count = m) ?_ ?_ ⟨hplace, rfl⟩ hcount hroom
  · rintro s m ⟨hplace, rfl⟩ b hb t hnext
    simp only [Scan.next, hplace, if_neg (hds b hb), Scan.keep] at hnext
    split at hnext
    · cases hnext
    · obtain rfl := Option.some.inj hnext
      exact ⟨by omega, rfl, rfl⟩
  · rintro s m ⟨hplace, -⟩
    simp [Scan.isData, hplace]

/-- more fields at the end than there is room for -/
theorem scan_of_crowded {fs : Headers} {lines : List UInt8} (h : FieldLines fs lines) (hplace : s.place = .line)
    (hlines : s.lines ≤ maxFields) (hcrowded : maxFields < s.lines + fs.length)
    (hroom : s.count + lines.length < octetLimit) : scan staysOpen s body (lines ++ rest) = .broken := by
  induction h generalizing s with
  | nil => exact absurd hcrowded (by simpa using hlines)
  | @cons f fs line lines hf _ ih =>
    rw [List.length_cons] at hcrowded
    rw [List.length_append] at hroom
    rw [List.append_assoc]
    by_cases hlast : s.lines < maxFields
    · have hcount : (s.kept line 1 .line).count = s.count + line.length := rfl
      have hpassed : (s.kept line 1 .line).lines = s.lines + 1 := rfl
      rw [scan_of_fieldLine hf hplace hlast (by omega)]
      exact ih rfl (by omega) (by omega) (by omega)
    · obtain ⟨b, ds, rfl, hds⟩ := exists_of_fieldLine hf
      simp only [Fields.lineEnd, List.length_append, List.length_cons, List.length_nil] at hroom
      have hreturn : scan staysOpen s body (b :: ds ++ carriageReturn :: (lineFeed :: (lines ++ rest))) = _ :=
        scan_to_fieldReturn hplace hds (by omega)
      have hfeed : (s.kept (b :: ds ++ [carriageReturn]) 0 .fieldReturn).next lineFeed = none := by
        simp [Scan.next, Scan.kept, hlast]
      have hsplit : b :: ds ++ Fields.lineEnd ++ (lines ++ rest) =
          b :: ds ++ carriageReturn :: (lineFeed :: (lines ++ rest)) := by simp [Fields.lineEnd]
      rw [hsplit, hreturn]
      simp only [scan, hfeed]

/-- a last chunk with so long an extension -/
def padded (n : ℕ) : List UInt8 := 0x30 :: 0x3B :: (List.replicate n 0x78 ++ Fields.lineEnd ++ Fields.lineEnd)

/-- a last chunk with fields behind it -/
def trailed (fs : Headers) : List UInt8 := 0x30 :: (Fields.lineEnd ++ Fields.write fs)

theorem hexadecimal_zero : Hexadecimal 0 [0x30] 0 := .cons (show hexDigit? 0x30 = some 0 by decide) .nil

theorem spelling_padded (n : ℕ) : Spelling ⟨n, 0, 0⟩ [] (padded n) := by
  have hext : ∀ b ∈ List.replicate n (0x78 : UInt8), b ≠ carriageReturn ∧ b ≠ lineFeed := by
    intro b hb
    rw [List.eq_of_mem_replicate hb]
    decide
  have hline : SizeLine 0 _ ([0x30] ++ ([] ++ 0x3B :: (List.replicate n 0x78 ++ Fields.lineEnd))) :=
    .extended (by decide) hexadecimal_zero nofun hext
  rw [List.length_replicate] at hline
  exact .last hline .nil

theorem spelling_trailed {fs : Headers} (h : ∀ f ∈ fs, Fields.canBeSent f = true) :
    Spelling ⟨0, fs.length, (fs.flatMap Fields.writeOne).length⟩ [] (trailed fs) := by
  have hline : SizeLine 0 0 ([0x30] ++ ([] ++ Fields.lineEnd)) := .plain (by decide) hexadecimal_zero nofun
  exact .last hline (fieldLines_write h)

/-- a last chunk is broken if its extension is too long -/
theorem read_padded (h : octetLimit ≤ n) : read staysOpen (padded n) = .broken := by
  have hdigit : Scan.start.next 0x30 = some (Scan.start.goTo (.size 0)) := rfl
  have hsemicolon : (Scan.start.goTo (.size 0)).next 0x3B = some (Scan.start.goTo (.extension 0)) := rfl
  rw [read, padded, scan_step hdigit nofun rfl, scan_step hsemicolon nofun rfl, List.append_assoc]
  refine scan_of_long_extension rfl ?_ (by decide) (by simpa [Scan.start, Scan.goTo] using h)
  intro b hb
  rw [List.eq_of_mem_replicate hb]
  decide

/-- where a scan goes on behind the last chunk -/
theorem read_trailed (fs : Headers) :
    read staysOpen (trailed fs) = scan staysOpen (Scan.start.goTo .line) [] (Fields.write fs) := by
  have hline : SizeLine 0 0 ([0x30] ++ ([] ++ Fields.lineEnd)) := .plain (by decide) hexadecimal_zero nofun
  exact scan_of_line hline rfl (by decide) (by decide)

/-- a last chunk is broken if there are too many fields behind it -/
theorem read_trailed_of_crowded {fs : Headers} (h : ∀ f ∈ fs, Fields.canBeSent f = true) (hcrowded : maxFields < fs.length)
    (hroom : (fs.flatMap Fields.writeOne).length < octetLimit) : read staysOpen (trailed fs) = .broken := by
  rw [read_trailed, Fields.write]
  exact scan_of_crowded (fieldLines_write h) rfl (by decide) (by simpa [Scan.start, Scan.goTo] using hcrowded)
    (by simpa [Scan.start, Scan.goTo] using hroom)

/-- a last chunk is broken if a field behind it is too long -/
theorem read_trailed_of_long {v : List UInt8} (h : ∀ b ∈ v, b ≠ carriageReturn) (hroom : octetLimit ≤ v.length) :
    read staysOpen (trailed [("x", v)]) = .broken := by
  have hfirst : (Scan.start.goTo .line).next 0x78 = some ((Scan.start.goTo .line).kept [0x78] 0 .field) := rfl
  have hwrite : Fields.write [("x", v)] = 0x78 :: (([colon, space] ++ v) ++ (Fields.lineEnd ++ Fields.lineEnd)) := by
    have hname : Utf8.bytes "x" = [0x78] := by decide
    simp [Fields.write, Fields.writeOne, hname]
  rw [read_trailed, hwrite, scan_step hfirst (by simp [Scan.kept]) rfl]
  refine scan_of_long_field rfl ?_ (by decide) (by simp [Scan.start, Scan.goTo, Scan.kept]; omega)
  intro b hb
  rcases List.mem_append.1 hb with hb | hb
  · have hboth : ∀ c ∈ [colon, space], c ≠ carriageReturn :=
      List.forall_mem_cons.2 ⟨by decide, List.forall_mem_singleton.2 (by decide)⟩
    exact hboth b hb
  · exact h b hb

end CredentialFailover.Http.Chunks
