import KeyScript.Sketch.Statement
import KeyScript.Sketch.Target

/-!
# Sketches

A sketch is a program for a board: a fixed beginning, the statements of the commands, and a fixed
end.

## Main definitions

- `Sketch.header`, `Sketch.footer` — the fixed parts
- `Sketch.body` — the statements of a list of commands
- `Sketch.generate` — the whole sketch
-/

namespace KeyScript.Sketch

/-- The text before the statements of the commands. -/
def header : Bytes :=
  Bytes.unlines
    ["#include <Keyboard.h>",
     "",
     "void typeString(const char* s)\x7b",
     "  while(*s)\x7b",
     "    if(*s=='\\n')\x7b Keyboard.write(KEY_RETURN); \x7d else \x7b Keyboard.write(*s); \x7d",
     "    delay(5);",
     "    s++;",
     "  \x7d",
     "\x7d",
     "",
     "void setup()\x7b",
     "  delay(1000);",
     "  Keyboard.begin();"]

/-- The text after the statements of the commands. -/
def footer : Bytes :=
  Bytes.unlines ["  Keyboard.end();", "\x7d", "", "void loop()\x7b\x7d"]

/-- The statements of the commands as lines. -/
def body (commands : List Command) : Bytes := commands.flatMap Command.code

/-- The sketch for a list of commands. It is the same for every target. -/
def generate (commands : List Command) (_target : Target) : Bytes :=
  header ++ body commands ++ footer

end KeyScript.Sketch
