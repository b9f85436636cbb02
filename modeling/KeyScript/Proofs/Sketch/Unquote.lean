import KeyScript.Proofs.Sketch.Escape

/-!
# Reading literals back

A compiler reads a literal from its opening quote to the first quote that is not part of an escape.
An octal escape takes as many digits as there are, up to three. Read like this, a literal gives
back the bytes that it was written for and nothing of it is left over, and there is no control byte
in it.

## Main definitions

- `Literal.readEscape` — the byte that an escape stands for
- `Literal.read` — the bytes that a literal stands for, and what follows it

## Main results

- `Literal.readBody_escapeByte_append` — one byte
- `Literal.read_quoted` — a whole literal in front of any text
- `Literal.read_string_ofCode` — string literals and character literals
-/

namespace KeyScript.Literal

def isOctalDigit (b : UInt8) : Bool := 48 ≤ b && b ≤ 55

/-- The octal digits that a text begins with, no more than three. -/
def octalDigits (s : Bytes) : Bytes := (s.take 3).takeWhile isOctalDigit

def octalValue (digits : Bytes) : Nat :=
  digits.foldl (fun n d => n * 8 + Numeral.digitValue d) 0

/-- The escapes of a single sign, each with the byte that it stands for. -/
def signEscapes : List (UInt8 × UInt8) :=
  [(doubleQuote, doubleQuote), (singleQuote, singleQuote), (backslash, backslash), (110, 10),
   (114, 13), (116, 9)]

/-- The byte that an escape stands for and the number of bytes that it takes behind its backslash,
from the text behind the backslash. -/
def readEscape (s : Bytes) : Option (UInt8 × Nat) :=
  match s.head?.bind fun b => signEscapes.lookup b with
  | some b => some (b, 1)
  | none =>
    let digits := octalDigits s
    if digits = [] then none else some (UInt8.ofNat (octalValue digits), digits.length)

/-- The bytes that a text stands for up to the first quote that is not part of an escape, and what
follows that quote; `skip` bytes belong to an escape that has been read. -/
def readBody (quote : UInt8) : (skip : Nat) → Bytes → Option (Bytes × Bytes)
  | _, [] => none
  | skip + 1, _ :: s => readBody quote skip s
  | 0, b :: s =>
    if b = quote then some ([], s)
    else if b = backslash then
      (readEscape s).bind fun escape =>
        (readBody quote escape.2 s).map fun read => (escape.1 :: read.1, read.2)
    else (readBody quote 0 s).map fun read => (b :: read.1, read.2)

/-- The bytes that the literal at the start of a text stands for, and what follows the literal. -/
def read (quote : UInt8) : Bytes → Option (Bytes × Bytes)
  | [] => none
  | b :: s => if b = quote then readBody quote 0 s else none

section Octal

theorem isOctalDigit_digit {n : Nat} (h : n < 8) : isOctalDigit (Numeral.digit n) = true := by
  have hdigit : (Numeral.digit n).toNat = 48 + n := Numeral.toNat_digit (by omega)
  simp only [isOctalDigit, Bool.and_eq_true, decide_eq_true_eq, UInt8.le_iff_toNat_le, hdigit]
  exact ⟨Nat.le_add_right 48 n, show 48 + n ≤ 55 by omega⟩

theorem octalDigits_octal_append {b : UInt8} (rest : Bytes) :
    octalDigits (Numeral.octal b ++ rest) = Numeral.octal b := by
  have hb : b.toNat < 256 := b.toNat_lt
  have hall : ∀ d ∈ Numeral.octal b, isOctalDigit d = true := by
    simp only [Numeral.octal, List.forall_mem_cons, List.not_mem_nil, false_implies, implies_true,
      and_true]
    exact ⟨isOctalDigit_digit (by omega), isOctalDigit_digit (by omega),
      isOctalDigit_digit (by omega)⟩
  rw [octalDigits, List.take_append_of_le_length (Nat.le_refl 3)]
  exact List.takeWhile_eq_self_iff.mpr hall

theorem octalValue_octal (b : UInt8) : octalValue (Numeral.octal b) = b.toNat := by
  have hb : b.toNat < 256 := b.toNat_lt
  simp only [octalValue, Numeral.octal, List.foldl_cons, List.foldl_nil]
  rw [Numeral.digitValue_digit (by omega), Numeral.digitValue_digit (by omega),
    Numeral.digitValue_digit (by omega)]
  omega

/-- An octal escape has three digits, so that no digit behind it is taken for a part of it. -/
theorem readEscape_octal_append (b : UInt8) (rest : Bytes) :
    readEscape (Numeral.octal b ++ rest) = some (b, 3) := by
  have hb : b.toNat < 256 := b.toNat_lt
  have hdigit : Numeral.isDigit (Numeral.digit (b.toNat / 64)) = true :=
    Numeral.isDigit_digit (by omega)
  -- The first digit is none of the signs that stand for a byte by themselves.
  have hsign : signEscapes.all (fun entry => !Numeral.isDigit entry.1) = true := by decide
  rw [List.all_eq_true] at hsign
  have hlookup : signEscapes.lookup (Numeral.digit (b.toNat / 64)) = none := by
    rw [List.lookup_eq_none_iff]
    intro entry hentry
    rw [bne_iff_ne]
    rintro heq
    have hnone := hsign entry hentry
    rw [← heq, hdigit] at hnone
    cases hnone
  have hhead : (Numeral.octal b ++ rest).head? = some (Numeral.digit (b.toNat / 64)) := rfl
  rw [readEscape, hhead, Option.bind_some, hlookup]
  simp only [octalDigits_octal_append, octalValue_octal, UInt8.ofNat_toNat]
  rfl

end Octal

section Bytewise

variable {quote b : UInt8}

theorem readBody_drop (quote : UInt8) (u s : Bytes) :
    readBody quote u.length (u ++ s) = readBody quote 0 s := by
  induction u with
  | nil => rfl
  | cons c u ih => exact ih

/-- An escape is read as the byte that it stands for, whatever follows it. -/
theorem readBody_escape_append (h : IsQuote quote) {u : Bytes}
    (hescape : ∀ rest, readEscape (u ++ rest) = some (b, u.length)) (rest : Bytes) :
    readBody quote 0 (backslash :: u ++ rest) =
      (readBody quote 0 rest).map fun read => (b :: read.1, read.2) := by
  rw [List.cons_append, readBody, if_neg h.ne_backslash.symm, if_pos rfl, hescape,
    Option.bind_some, readBody_drop]

theorem readBody_plain_append (hquote : b ≠ quote) (hbackslash : b ≠ backslash) (rest : Bytes) :
    readBody quote 0 ([b] ++ rest) =
      (readBody quote 0 rest).map fun read => (b :: read.1, read.2) := by
  rw [List.singleton_append, readBody, if_neg hquote, if_neg hbackslash]

theorem readEscape_quote_append (h : b = quote ∨ b = backslash) (hquote : IsQuote quote)
    (rest : Bytes) : readEscape ([b] ++ rest) = some (b, 1) := by
  have hsign : signEscapes.lookup b = some b := by
    rcases h with rfl | rfl
    · rcases hquote with rfl | rfl <;> decide
    · decide
  rw [readEscape, List.singleton_append, List.head?_cons, Option.bind_some, hsign]

/-- Each byte of a literal is read as the byte that it was written for. -/
theorem readBody_escapeByte_append (h : IsQuote quote) (b : UInt8) (rest : Bytes) :
    readBody quote 0 (escapeByte quote b ++ rest) =
      (readBody quote 0 rest).map fun read => (b :: read.1, read.2) := by
  rw [escapeByte]
  split
  · next hescaped =>
    have hescaped : b = quote ∨ b = backslash := by simpa using hescaped
    exact readBody_escape_append h (u := [b]) (readEscape_quote_append hescaped h) rest
  next hplain =>
  obtain ⟨hquote, hbackslash⟩ : b ≠ quote ∧ b ≠ backslash := by simpa using hplain
  split
  · next hb => exact readBody_escape_append h (u := [110]) (fun _ => hb ▸ rfl) rest
  split
  · next hb => exact readBody_escape_append h (u := [114]) (fun _ => hb ▸ rfl) rest
  split
  · next hb => exact readBody_escape_append h (u := [116]) (fun _ => hb ▸ rfl) rest
  split
  · exact readBody_escape_append h (readEscape_octal_append b) rest
  · exact readBody_plain_append hquote hbackslash rest

theorem readBody_flatMap_escapeByte_append (h : IsQuote quote) (s rest : Bytes) :
    readBody quote 0 (s.flatMap (escapeByte quote) ++ quote :: rest) = some (s, rest) := by
  induction s with
  | nil => rw [List.flatMap_nil, List.nil_append, readBody, if_pos rfl]
  | cons b s ih =>
    rw [List.flatMap_cons, List.append_assoc, readBody_escapeByte_append h, ih, Option.map_some]

/-- A literal is read up to its last quote, as the bytes that it was written for. -/
theorem read_quoted (h : IsQuote quote) (s rest : Bytes) :
    read quote (quote :: s.flatMap (escapeByte quote) ++ quote :: rest) = some (s, rest) := by
  rw [List.cons_append, read, if_pos rfl, readBody_flatMap_escapeByte_append h]

/-- Every unit is written for some byte. -/
theorem IsUnit.exists_eq_escapeByte {u : Bytes} (h : IsQuote quote) (hu : IsUnit quote u) :
    ∃ b, u = escapeByte quote b := by
  cases hu with
  | @plain b hcontrol hbackslash hquote =>
    refine ⟨b, ?_⟩
    have hname : ∀ name : UInt8, isControl name = true → b ≠ name := by
      rintro name hname rfl
      rw [hname] at hcontrol
      cases hcontrol
    simp [escapeByte, hquote, hbackslash, hcontrol, hname 10 (by decide), hname 13 (by decide),
      hname 9 (by decide)]
  | @escape b hb =>
    rcases hb with rfl | rfl | hb
    · exact ⟨b, by simp [escapeByte]⟩
    · exact ⟨backslash, by simp [escapeByte]⟩
    · obtain rfl | rfl | rfl : b = 110 ∨ b = 114 ∨ b = 116 := by
        have hletters : ("nrt" : Bytes) = [110, 114, 116] := by decide
        simpa [hletters] using hb
      · exact ⟨10, by rcases h with rfl | rfl <;> decide⟩
      · exact ⟨13, by rcases h with rfl | rfl <;> decide⟩
      · exact ⟨9, by rcases h with rfl | rfl <;> decide⟩
  | @octal b hcontrol hname =>
    -- A control byte without a letter is none of those that come before it in `escapeByte`.
    refine ⟨b, ?_⟩
    have hsign : ∀ sign : UInt8, isControl sign = false → b ≠ sign := by
      rintro sign hsign rfl
      rw [hsign] at hcontrol
      cases hcontrol
    have hquote : isControl quote = false := by rcases h with rfl | rfl <;> decide
    have hnames : ("\n\r\t" : Bytes) = [10, 13, 9] := by decide
    simp only [hnames, List.mem_cons, List.not_mem_nil, or_false, not_or] at hname
    simp [escapeByte, hsign quote hquote, hsign backslash (by decide), hname, hcontrol]

theorem IsBody.exists_eq_flatMap_escapeByte {s : Bytes} (h : IsQuote quote) (hs : IsBody quote s) :
    ∃ t : Bytes, s = t.flatMap (escapeByte quote) := by
  induction hs with
  | nil => exact ⟨[], rfl⟩
  | cons hu _ ih =>
    obtain ⟨b, rfl⟩ := hu.exists_eq_escapeByte h
    obtain ⟨t, rfl⟩ := ih
    exact ⟨b :: t, rfl⟩

end Bytewise

section Control

theorem isControl_of_isDigit {d : UInt8} (h : Numeral.isDigit d = true) : isControl d = false := by
  rw [Numeral.isDigit, Bool.and_eq_true, decide_eq_true_eq, decide_eq_true_eq] at h
  have hlow : ¬d < 0x20 := by grind
  have hhigh : d ≠ 0x7F := by grind
  simp [isControl, hlow, hhigh]

theorem IsUnit.isControl_of_mem {quote : UInt8} {u : Bytes} (h : IsQuote quote)
    (hu : IsUnit quote u) : ∀ b ∈ u, isControl b = false := by
  cases hu with
  | plain hcontrol => simpa using hcontrol
  | @escape b hb =>
    have hcontrol : isControl b = false := by
      rcases hb with rfl | rfl | hb
      · rcases h with rfl | rfl <;> decide
      · decide
      · have hletters : ("nrt" : Bytes).all (fun b => !isControl b) = true := by decide
        simpa using List.all_eq_true.mp hletters b hb
    simpa using ⟨by decide, hcontrol⟩
  | @octal b =>
    have hlt : b.toNat < 256 := b.toNat_lt
    simp only [Numeral.octal, List.forall_mem_cons, List.not_mem_nil, false_implies, implies_true,
      and_true]
    exact ⟨by decide, isControl_of_isDigit (Numeral.isDigit_digit (by omega)),
      isControl_of_isDigit (Numeral.isDigit_digit (by omega)),
      isControl_of_isDigit (Numeral.isDigit_digit (by omega))⟩

/-- A literal holds no control byte. -/
theorem isControl_of_mem_quoted {quote : UInt8} (h : IsQuote quote) (s : Bytes) :
    ∀ b ∈ quote :: s.flatMap (escapeByte quote) ++ [quote], isControl b = false := by
  have hquote : isControl quote = false := by rcases h with rfl | rfl <;> decide
  intro b hb
  simp only [List.cons_append, List.mem_cons, List.mem_append, List.mem_flatMap,
    List.not_mem_nil, or_false] at hb
  rcases hb with rfl | ⟨c, -, hb⟩ | rfl
  · exact hquote
  · exact (isUnit_escapeByte quote c).isControl_of_mem h b hb
  · exact hquote

end Control

/-- A string literal is read as the bytes it was written for, and a character literal as the UTF-8
bytes of the character with its code, or of U+FFFD if there is none. Nothing is left over, and
there are no control bytes in them. -/
theorem read_string_ofCode (s : Bytes) (code : Int) :
    read doubleQuote (string s) = some (s, []) ∧
      read singleQuote (ofCode code) =
        some (encode (if 0 ≤ code ∧ code.toNat.isValidChar then Char.ofNat code.toNat
          else replacement), []) ∧
      ∀ b ∈ string s ++ ofCode code, 0x20 ≤ b ∧ b ≠ 0x7F := by
  refine ⟨read_quoted (.inl rfl) s [], read_quoted (.inr rfl) _ [], fun b hb => ?_⟩
  have hcontrol : isControl b = false := by
    rcases List.mem_append.mp hb with hb | hb
    · exact isControl_of_mem_quoted (.inl rfl) s b hb
    · exact isControl_of_mem_quoted (.inr rfl) _ b hb
  simpa [isControl] using hcontrol

/-- A digit behind an octal escape, a backslash before a quote, and the code of a surrogate. -/
theorem read_string_ofCode_surrogate :
    let s : Bytes := [1, 50, 92, 34, 127]
    string s = "\"\\0012\\\\\\\"\\177\"" ∧ read doubleQuote (string s) = some (s, []) ∧
      read singleQuote (ofCode 0xD800) = some (([0xEF, 0xBF, 0xBD] : Bytes), []) ∧
      backslash ∈ string s ++ ofCode 0xD800 ∧ 0x20 ≤ backslash ∧ backslash ≠ 0x7F := by
  intro s
  obtain ⟨hstring, hcode, hcontrol⟩ := read_string_ofCode s 0xD800
  have hmem : backslash ∈ string s ++ ofCode 0xD800 := by decide
  exact ⟨by decide, hstring, hcode, hmem, hcontrol backslash hmem⟩

end KeyScript.Literal
