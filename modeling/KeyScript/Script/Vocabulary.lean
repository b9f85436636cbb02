import KeyScript.Script.Key
import KeyScript.Script.Ranking
import KeyScript.Text.Case
import KeyScript.Text.Distance

/-!
# The vocabulary of scripts

The words that may start a line and the words of a chord, and the search among them for words that
are close to a given one. A word matches loosely if it has the letters of the other in order, up
to case.

## Main definitions

- `startWords`, `followWords` — the words of scripts
- `matchesLoosely` — whether a word has the letters of another
- `suggest` — the words closest to an unknown one
-/

namespace KeyScript

/-- The names of the keys that do not stand for the system key. -/
def plainKeyNames : List Bytes :=
  (Key.all.filter fun k => k != .gui && k != .windows).map Key.name

/-- Every word that may start a line. -/
def startWords : List Bytes :=
  "REM" :: "STRING" :: "DELAY" :: "REPEAT" :: "CTRL" :: "CONTROL" :: "ALT" :: "SHIFT" :: "GUI" ::
    "WINDOWS" :: plainKeyNames

/-- Every word that may follow a modifier. -/
def followWords : List Bytes :=
  "CTRL" :: "CONTROL" :: "ALT" :: "SHIFT" :: "GUI" :: "WINDOWS" :: "WIN" :: plainKeyNames

/-- Whether the letters of a token occur in a word in order, up to case. -/
def matchesLoosely (token word : Bytes) : Bool := token.lower.chars.isSublist word.lower.chars

/-- The number of changes of single letters that turn a token into a word. -/
def wordDistance (token word : Bytes) : Nat := editDistance token.chars word.chars

/-- The most suggestions for one token. -/
def maxSuggestions : Nat := 3

/-- The words nearest to a token, nearest first; words of equal distance keep their order. -/
def nearest (token : Bytes) (words : List Bytes) : List Bytes :=
  (words.mergeSort fun v w => wordDistance token v ≤ wordDistance token w).take maxSuggestions

/-- The words nearest to a token, nearest first, in the order that sorting by exchanges gives. -/
def nearestExchanged (token : Bytes) (words : List Bytes) : List Bytes :=
  (Ranking.sort (wordDistance token) words).take maxSuggestions

/-- The greatest distance of a word that is suggested for a token that no word matches. -/
def maxDistance : Nat := 2

/-- The words closest to an unknown token: those that match it loosely or, if there are none,
those that differ from it in few letters. -/
def suggest (token : Bytes) : List Bytes :=
  let loose := startWords.filter (matchesLoosely token)
  if loose.isEmpty then
    nearest token.upper (startWords.filter fun w => wordDistance token.upper w ≤ maxDistance)
  else nearestExchanged token loose

end KeyScript
