import Mathlib.Tactic.Common
import KeyScript.Editor.Highlight
import KeyScript.Proofs.Script.Parsing
import KeyScript.Proofs.Text.Columns

/-!
# The tokens of a document and their encoding

The tokens of a document stand inside their lines, are not empty and come one behind the other.
Hence the differences that are written in place of their positions are never negative, and an editor
that adds them up again gets the tokens back, as long as lines and columns fit into 32 bits.

## Main definitions

- `DecodedToken`, `decodeTokens` — tokens as an editor reads them
- `numbersFrom` — the numbers of an encoding before they are made 32 bits wide
- `Highlight.Precedes` — one token ends before another begins

## Main results

- `areTokensOn_lineHighlights` — the tokens of a line
- `Document.isOn_of_mem_highlights`, `Document.pairwise_highlights` — the tokens of a document
- `decodeFrom_encodeFrom` — decoding gives back what was encoded
- `decodeTokens_highlights` — what an editor reads from the encoding of a document
-/

namespace KeyScript

/-- One token ends before another begins. -/
def Highlight.Precedes (g h : Highlight) : Prop :=
  g.line < h.line ∨ g.line = h.line ∧ g.start + g.length ≤ h.start

/-! ## The tokens of a line -/

/-- A token on a line: it is not empty and stands inside the line. -/
structure Highlight.IsOn (h : Highlight) (line : Nat) (text : Bytes) : Prop where
  line_eq : h.line = line
  length_pos : 0 < h.length
  finish_le : h.start + h.length ≤ text.units

/-- Tokens on a line, one behind the other. -/
structure AreTokensOn (line : Nat) (text : Bytes) (hs : List Highlight) : Prop where
  isOn : ∀ h ∈ hs, h.IsOn line text
  apart : hs.Pairwise fun g h => g.start + g.length ≤ h.start

section Line

variable {text : Bytes} {w : LocatedWord}

/-- The token of a word ends where the word does. -/
theorem LocatedWord.finish_highlight (hw : w ∈ text.wordsAt isBlank) (line : Nat)
    (kind : HighlightKind) :
    (w.highlight line kind).start + (w.highlight line kind).length = w.finish := by
  have hbounds := w.bounds_of_mem_wordsAt hw
  simp only [highlight]
  omega

theorem LocatedWord.isOn_highlight (hw : w ∈ text.wordsAt isBlank) (line : Nat)
    (kind : HighlightKind) : (w.highlight line kind).IsOn line text := by
  have hbounds := w.bounds_of_mem_wordsAt hw
  refine ⟨rfl, ?_, ?_⟩
  · simp only [highlight]
    omega
  · rw [w.finish_highlight hw]
    exact hbounds.2

theorem LocatedWord.isOn_highlightRest (hw : w ∈ text.wordsAt isBlank) (line : Nat)
    (kind : HighlightKind) : (w.highlightRest line text kind).IsOn line text := by
  have hbounds := w.bounds_of_mem_wordsAt hw
  refine ⟨rfl, ?_, ?_⟩
  · simp only [highlightRest]
    omega
  · simp only [highlightRest]
    omega

/-- A word as a token, in front of a token that begins with the next word if there is one. -/
theorem areTokensOn_cons_head? {ws : List LocatedWord} (hwords : text.wordsAt isBlank = w :: ws)
    (line : Nat) (kind : HighlightKind) {next : LocatedWord → Highlight}
    (hstart : ∀ v, (next v).start = v.start)
    (hnext : ∀ v ∈ text.wordsAt isBlank, (next v).IsOn line text) :
    AreTokensOn line text (w.highlight line kind :: (ws.head?.map next).toList) := by
  have hw : w ∈ text.wordsAt isBlank := by simp [hwords]
  have hfirst := w.isOn_highlight hw line kind
  cases ws with
  | nil => exact ⟨by simpa using hfirst, List.pairwise_singleton _ _⟩
  | cons v ws =>
    have hv := hnext v (by simp [hwords])
    have hbehind : w.finish ≤ v.start := by
      have hpair := pairwise_wordsAt isBlank text
      rw [hwords] at hpair
      exact List.rel_of_pairwise_cons hpair List.mem_cons_self
    refine ⟨by simpa using ⟨hfirst, hv⟩, ?_⟩
    simpa [w.finish_highlight hw, hstart] using hbehind

/-- Some of the words of a line, each as a token. -/
theorem areTokensOn_filterMap (line : Nat) (text : Bytes)
    (kind? : LocatedWord → Option HighlightKind) :
    AreTokensOn line text
      ((text.wordsAt isBlank).filterMap fun v => (kind? v).map (v.highlight line)) := by
  constructor
  · intro h hh
    obtain ⟨v, hv, hkind⟩ := List.mem_filterMap.mp hh
    obtain ⟨kind, -, rfl⟩ := Option.map_eq_some_iff.mp hkind
    exact v.isOn_highlight hv line kind
  · rw [List.pairwise_filterMap]
    refine (pairwise_wordsAt isBlank text).imp_of_mem ?_
    intro v w hv _ hbehind g hg h hh
    obtain ⟨kind, -, rfl⟩ := Option.map_eq_some_iff.mp hg
    obtain ⟨kind', -, rfl⟩ := Option.map_eq_some_iff.mp hh
    rw [v.finish_highlight hv]
    exact hbehind

theorem areTokensOn_lineHighlights (rejected : Bool) (line : Nat) (text : Bytes) :
    AreTokensOn line text (lineHighlights rejected line text) := by
  have hnone : AreTokensOn line text [] := ⟨by simp, .nil⟩
  rw [lineHighlights]
  cases hwords : text.wordsAt isBlank with
  | nil => exact hnone
  | cons w ws =>
    have hw : w ∈ text.wordsAt isBlank := by simp [hwords]
    simp only
    split
    · exact ⟨by simpa using w.isOn_highlightRest hw line .comment, List.pairwise_singleton _ _⟩
    split
    · exact hnone
    split
    · refine areTokensOn_cons_head? hwords line .keyword (fun _ => rfl) fun v hv => ?_
      exact v.isOn_highlightRest hv line .text
    split
    · refine areTokensOn_cons_head? hwords line .keyword (fun _ => rfl) fun v hv => ?_
      exact v.isOn_highlight hv line .number
    · rw [← hwords]
      exact areTokensOn_filterMap line text fun v => chordKind? v.text.upper

end Line

/-! ## The tokens of a document -/

namespace Document

variable {d : Document} {h : Highlight}

/-- A token of a document is a token of the line it stands on. -/
theorem mem_highlights :
    h ∈ d.highlights ↔
      ∃ text, d.lines[h.line]? = some text ∧
        h ∈ lineHighlights (d.isRejected h.line) h.line text := by
  rw [highlights, List.mem_flatten]
  constructor
  · rintro ⟨hs, hhs, hh⟩
    obtain ⟨⟨text, i⟩, hi, rfl⟩ := List.mem_map.mp hhs
    have hline : h.line = i := ((areTokensOn_lineHighlights _ _ _).isOn h hh).line_eq
    rw [List.mem_zipIdx_iff_getElem?] at hi
    rw [hline]
    exact ⟨text, hi, hh⟩
  · rintro ⟨text, htext, hh⟩
    exact ⟨_, List.mem_map.mpr ⟨(text, h.line), List.mem_zipIdx_iff_getElem?.mpr htext, rfl⟩, hh⟩

theorem isOn_of_mem_highlights (hh : h ∈ d.highlights) :
    ∃ text, d.lines[h.line]? = some text ∧ h.IsOn h.line text := by
  obtain ⟨text, htext, hh⟩ := mem_highlights.mp hh
  exact ⟨text, htext, (areTokensOn_lineHighlights _ _ _).isOn h hh⟩

/-- The tokens of a document come one behind the other. -/
theorem pairwise_highlights (d : Document) : d.highlights.Pairwise Highlight.Precedes := by
  rw [highlights, List.pairwise_flatten]
  constructor
  · intro hs hhs
    obtain ⟨⟨text, i⟩, -, rfl⟩ := List.mem_map.mp hhs
    have htokens := areTokensOn_lineHighlights (d.isRejected i) i text
    refine htokens.apart.imp_of_mem fun hg hh happart => .inr ⟨?_, happart⟩
    rw [(htokens.isOn _ hg).line_eq, (htokens.isOn _ hh).line_eq]
  · rw [List.pairwise_map]
    have hindex : d.lines.zipIdx.Pairwise fun p q => p.2 < q.2 := by
      rw [← List.pairwise_map (f := Prod.snd) (R := (· < ·)), List.zipIdx_map_snd]
      exact List.pairwise_lt_range' 1
    refine hindex.imp fun hlt g hg h hh => .inl ?_
    rw [((areTokensOn_lineHighlights _ _ _).isOn g hg).line_eq,
      ((areTokensOn_lineHighlights _ _ _).isOn h hh).line_eq]
    exact hlt

end Document

/-! ## The encoding -/

/-- A token as an editor reads it. -/
structure DecodedToken where
  line : Nat
  start : Nat
  length : Nat
  kind : Nat
  modifiers : Nat
deriving DecidableEq, Repr

/-- The token that an editor is to read. -/
def Highlight.decoded (h : Highlight) : DecodedToken := ⟨h.line, h.start, h.length, h.kind.code, 0⟩

/-- The tokens in a list of numbers, five for each. A token on the line of the one before it has its
start counted from there. -/
def decodeFrom (line start : Nat) : List UInt32 → Option (List DecodedToken)
  | [] => some []
  | lines :: columns :: length :: kind :: modifiers :: rest =>
    let line' := line + lines.toNat
    let start' := if lines.toNat = 0 then start + columns.toNat else columns.toNat
    (decodeFrom line' start' rest).map
      (⟨line', start', length.toNat, kind.toNat, modifiers.toNat⟩ :: ·)
  | _ => none

@[inherit_doc decodeFrom]
def decodeTokens (data : List UInt32) : Option (List DecodedToken) := decodeFrom 0 0 data

/-- The numbers of an encoding, before they are made 32 bits wide. -/
def numbersFrom (line start : Nat) : List Highlight → List Int
  | [] => []
  | h :: hs =>
    let lines : Int := h.line - line
    let columns : Int := if lines = 0 then h.start - start else h.start
    lines :: columns :: h.length :: h.kind.code :: 0 :: numbersFrom h.line h.start hs

section Encoding

variable {line start : Nat} {h : Highlight} {hs : List Highlight} {n : Int}

theorem ofInt_eq_ofNat (n : Int) : UInt32.ofInt n = UInt32.ofNat (n % UInt32.size).toNat := rfl

/-- A number that fits is not changed when it is made 32 bits wide. -/
theorem toNat_ofInt (hn : 0 ≤ n) (hsize : n < UInt32.size) :
    ((UInt32.ofInt n).toNat : Int) = n := by
  have hlt : n.toNat < UInt32.size := by omega
  rw [ofInt_eq_ofNat, Int.emod_eq_of_lt hn hsize, UInt32.toNat_ofNat_of_lt' hlt]
  omega

theorem ofInt_natCast (n : Nat) : UInt32.ofInt n = UInt32.ofNat n := by
  rw [ofInt_eq_ofNat, ← Int.natCast_emod, Int.toNat_natCast, UInt32.ofNat_mod_size]

theorem encodeFrom_eq_map (line start : Nat) (hs : List Highlight) :
    encodeFrom line start hs = (numbersFrom line start hs).map UInt32.ofInt := by
  induction hs generalizing line start with
  | nil => rfl
  | cons h hs ih =>
    simp only [encodeFrom, numbersFrom, List.map_cons, ofInt_natCast, ih]
    rfl

/-- Tokens behind a place, one behind the other, with numbers that fit into 32 bits. -/
structure AreEncodable (line start : Nat) (hs : List Highlight) : Prop where
  behind : ∀ h ∈ hs, line < h.line ∨ line = h.line ∧ start ≤ h.start
  apart : hs.Pairwise Highlight.Precedes
  fits : ∀ h ∈ hs, h.line < UInt32.size ∧ h.start + h.length < UInt32.size

theorem AreEncodable.tail (henc : AreEncodable line start (h :: hs)) :
    AreEncodable h.line h.start hs := by
  obtain ⟨-, hpair, hfits⟩ := henc
  obtain ⟨hfirst, hrest⟩ := List.pairwise_cons.mp hpair
  refine ⟨fun g hg => ?_, hrest, fun g hg => hfits g (List.mem_cons_of_mem _ hg)⟩
  rcases hfirst g hg with hline | ⟨hline, hstart⟩
  · exact .inl hline
  · exact .inr ⟨hline, by omega⟩

/-- The numbers for the first token are not negative and fit into 32 bits. -/
theorem AreEncodable.bounds (henc : AreEncodable line start (h :: hs)) :
    (0 ≤ (h.line : Int) - line ∧ (h.line : Int) - line < UInt32.size) ∧
      (0 ≤ (if (h.line : Int) - line = 0 then (h.start : Int) - start else h.start) ∧
        (if (h.line : Int) - line = 0 then (h.start : Int) - start else h.start) < UInt32.size) ∧
      h.length < UInt32.size := by
  have hbehind := henc.behind h List.mem_cons_self
  have hfits := henc.fits h List.mem_cons_self
  refine ⟨by omega, ?_, by omega⟩
  split <;> omega

theorem HighlightKind.code_le_five (kind : HighlightKind) : kind.code ≤ 5 := by
  cases kind <;> decide

/-- No number of an encoding is negative or too large. -/
theorem bounds_of_mem_numbersFrom (henc : AreEncodable line start hs)
    (hn : n ∈ numbersFrom line start hs) : 0 ≤ n ∧ n < UInt32.size := by
  induction hs generalizing line start with
  | nil => cases hn
  | cons h hs ih =>
    obtain ⟨hlines, hcolumns, hlength⟩ := henc.bounds
    have hkind := h.kind.code_le_five
    have hsize : (5 : Int) < UInt32.size := by decide
    simp only [numbersFrom, List.mem_cons] at hn
    rcases hn with rfl | rfl | rfl | rfl | rfl | hn
    · exact hlines
    · exact hcolumns
    · omega
    · omega
    · omega
    · exact ih henc.tail hn

/-- Decoding gives back what was encoded. -/
theorem decodeFrom_encodeFrom (henc : AreEncodable line start hs) :
    decodeFrom line start (encodeFrom line start hs) = some (hs.map Highlight.decoded) := by
  induction hs generalizing line start with
  | nil => rfl
  | cons h hs ih =>
    obtain ⟨⟨hlines, hlines'⟩, ⟨hcolumns, hcolumns'⟩, hlength⟩ := henc.bounds
    have hbehind := henc.behind h List.mem_cons_self
    have hkind := h.kind.code_le_five
    have hlength : (UInt32.ofNat h.length).toNat = h.length := UInt32.toNat_ofNat_of_lt' hlength
    have hcode : (UInt32.ofNat h.kind.code).toNat = h.kind.code :=
      UInt32.toNat_ofNat_of_lt' (Nat.lt_of_le_of_lt hkind (by decide))
    have hline : line + (UInt32.ofInt ((h.line : Int) - line)).toNat = h.line := by
      have := toNat_ofInt hlines hlines'
      omega
    have hstart : (if (UInt32.ofInt ((h.line : Int) - line)).toNat = 0 then
          start + (UInt32.ofInt (if (h.line : Int) - line = 0 then (h.start : Int) - start
            else h.start)).toNat
        else (UInt32.ofInt (if (h.line : Int) - line = 0 then (h.start : Int) - start
            else h.start)).toNat) = h.start := by
      have := toNat_ofInt hlines hlines'
      have := toNat_ofInt hcolumns hcolumns'
      -- The line is the same exactly if the difference of the lines is zero.
      by_cases hsame : (h.line : Int) - line = 0
      · rw [if_pos (by omega)]
        rw [if_pos hsame] at this ⊢
        omega
      · rw [if_neg (by omega)]
        rw [if_neg hsame] at this ⊢
        omega
    simp only [encodeFrom, decodeFrom, hline, hstart, hlength, hcode, ih henc.tail,
      Option.map_some, List.map_cons, Option.some.injEq]
    rfl

end Encoding

theorem Document.areEncodable_highlights {d : Document} (hlines : d.lines.length ≤ UInt32.size)
    (hunits : ∀ line ∈ d.lines, line.units < UInt32.size) : AreEncodable 0 0 d.highlights := by
  refine ⟨fun h _ => by omega, d.pairwise_highlights, fun h hh => ?_⟩
  obtain ⟨text, htext, hon⟩ := isOn_of_mem_highlights hh
  have hbound : h.line < d.lines.length := (List.getElem?_eq_some_iff.mp htext).1
  have hfinish := hon.finish_le
  have hsize := hunits text (List.mem_of_getElem? htext)
  omega

/-- In a text of fewer than 2^32 lines, each of fewer than 2^32 units, an editor reads from the
encoding tokens that stand inside their lines, are not empty, have one of the six kinds and no
modifiers, and come one behind the other. They are the tokens that were encoded: no number of the
encoding was negative or too large for 32 bits. -/
theorem decodeTokens_highlights (uri text : Bytes)
    (hlines : (splitLines text).length < UInt32.size)
    (hunits : ∀ line ∈ splitLines text, line.units < UInt32.size) :
    ∃ tokens, decodeTokens (encodeHighlights (Document.ofText uri text).highlights) = some tokens ∧
      tokens = (Document.ofText uri text).highlights.map Highlight.decoded ∧
      (∀ t ∈ tokens, t.line < (splitLines text).length ∧
        (∃ line, (splitLines text)[t.line]? = some line ∧ t.start + t.length ≤ line.units) ∧
        0 < t.length ∧ t.kind ≤ 5 ∧ t.modifiers = 0) ∧
      (tokens.Pairwise fun s t => (s.line < t.line ∨ s.line = t.line ∧ s.start < t.start) ∧
        (s.line = t.line → s.start + s.length ≤ t.start)) ∧
      encodeHighlights (Document.ofText uri text).highlights =
        (numbersFrom 0 0 (Document.ofText uri text).highlights).map UInt32.ofInt ∧
      ∀ n ∈ numbersFrom 0 0 (Document.ofText uri text).highlights, 0 ≤ n ∧ n < UInt32.size := by
  set d := Document.ofText uri text with hd
  have henc : AreEncodable 0 0 d.highlights :=
    d.areEncodable_highlights (Nat.le_of_lt hlines) hunits
  refine ⟨_, decodeFrom_encodeFrom henc, rfl, ?_, ?_, encodeFrom_eq_map 0 0 _,
    fun n hn => bounds_of_mem_numbersFrom henc hn⟩
  · intro t ht
    obtain ⟨h, hh, rfl⟩ := List.mem_map.mp ht
    obtain ⟨line, hline, hon⟩ := Document.isOn_of_mem_highlights hh
    exact ⟨(List.getElem?_eq_some_iff.mp hline).1, ⟨line, hline, hon.finish_le⟩, hon.length_pos,
      h.kind.code_le_five, rfl⟩
  · rw [List.pairwise_map]
    refine d.pairwise_highlights.imp_of_mem fun {g h} hg _ hprecedes => ?_
    obtain ⟨_, -, hon⟩ := Document.isOn_of_mem_highlights hg
    have hpos := hon.length_pos
    simp only [Highlight.decoded, Highlight.Precedes] at hprecedes ⊢
    omega

/-- A text with a character of two units, an empty line and a chord with a word that is no key. -/
theorem decodeTokens_highlights_wide :
    (splitLines "STRING 🦆\n\nctrl ALT x").length < UInt32.size ∧
      (∀ line ∈ splitLines "STRING 🦆\n\nctrl ALT x", line.units < UInt32.size) ∧
      decodeTokens (encodeHighlights
          (Document.ofText [] "STRING 🦆\n\nctrl ALT x").highlights) =
        some [⟨0, 0, 6, 1, 0⟩, ⟨0, 7, 2, 3, 0⟩, ⟨2, 0, 4, 5, 0⟩, ⟨2, 5, 3, 5, 0⟩] := by
  have hlines : (splitLines "STRING 🦆\n\nctrl ALT x").length < UInt32.size := by
    decide +kernel
  have hunits : ∀ line ∈ splitLines "STRING 🦆\n\nctrl ALT x", line.units < UInt32.size := by
    decide +kernel
  obtain ⟨tokens, hdecode, htokens, -⟩ := decodeTokens_highlights [] _ hlines hunits
  refine ⟨hlines, hunits, ?_⟩
  rw [hdecode, htokens, Document.ofText, Document.setText, parseMaxRepeat_eq_result]
  decide +kernel

end KeyScript
