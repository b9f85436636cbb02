import KeyScript.Editor.Document
import KeyScript.Proofs.Script.Caps

/-!
# What a document holds

An edit changes a document in place: its lines and its result are replaced, and its two indexes are
emptied and filled again. Whatever the document held before, it then holds what follows from the new
text and nothing else, as if it had just been made from this text. The index of diagnostics has
those of the text without a cap on repetitions.

## Main definitions

- `Document.Holds` — a document that holds what follows from a text

## Main results

- `Document.holds_setText` — after an edit a document holds what follows from the new text
- `Document.setText_eq_ofText` — an edited document is the one that is made from the new text
- `Document.commandsOn_ofText`, `Document.isRejected_ofText` — the two indexes of one line
-/

namespace KeyScript

namespace Document

/-- A document that holds what follows from a text: a line has an entry in an index exactly if the
text brings something for it, and the entry is all that it brings, in order. -/
structure Holds (d : Document) (text : Bytes) : Prop where
  text_eq : d.text = text
  lines_eq : d.lines = splitLines text
  result_eq : d.result = parseMaxRepeat text maxRepeat
  commands_eq : ∀ line, d.commandIndex.get? line =
    if (parseMaxRepeat text maxRepeat).commands.filter (fun c => c.line == line + 1) = [] then none
    else some ((parseMaxRepeat text maxRepeat).commands.filter fun c => c.line == line + 1)
  errors_eq : ∀ line, d.errorIndex.get? line =
    if (parse text).errors.filter (fun e => e.line == line + 1) = [] then none
    else some ((parse text).errors.filter fun e => e.line == line + 1)

/-- The lines of the items of an index are counted from one, its keys from zero. -/
theorem decide_sub_one_eq (number line : Int) :
    decide (number - 1 = line) = (number == line + 1) := by
  rw [Bool.eq_iff_iff, decide_eq_true_iff, beq_iff_eq]
  omega

variable (d : Document) (uri text : Bytes)

/-- After an edit a document holds what follows from the new text, whatever it held before. -/
theorem holds_setText : (d.setText text).Holds text where
  text_eq := rfl
  lines_eq := rfl
  result_eq := rfl
  commands_eq line := by
    simp only [setText, Dictionary.get?_clear_pushAll, decide_sub_one_eq]
  errors_eq line := by
    simp only [setText, Dictionary.get?_clear_pushAll, decide_sub_one_eq, errors_parseMaxRepeat]

/-- An edited document is the one that is made from the new text under its name. -/
theorem setText_eq_ofText : d.setText text = ofText d.uri text := rfl

theorem commandsOn_ofText (line : Int) :
    (ofText uri text).commandsOn line =
      (parseMaxRepeat text maxRepeat).commands.filter fun c => c.line == line + 1 := by
  simp only [commandsOn, ofText, setText, Dictionary.listAt_pushAll, decide_sub_one_eq]
  rfl

/-- The lines that are rejected are those with a diagnostic. -/
theorem isRejected_ofText (line : Int) :
    (ofText uri text).isRejected line = false ↔ (parse text).errorCount (line + 1) = 0 := by
  have hlist : (ofText uri text).errorIndex.listAt line =
      (parse text).errors.filter fun e => e.line == line + 1 := by
    simp only [ofText, setText, Dictionary.listAt_pushAll, decide_sub_one_eq, errors_parseMaxRepeat]
    rfl
  rw [isRejected, hlist, Result.errorCount, List.countP_eq_length_filter, List.length_eq_zero_iff,
    Bool.not_eq_false', List.isEmpty_iff]
  rfl

end Document

end KeyScript
