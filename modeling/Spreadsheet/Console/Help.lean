/-!
# Console/Help — the reference text
-/

namespace Spreadsheet

namespace Help

def title : List String :=
  ["CELLSHEET EXPRESSION LANGUAGE REFERENCE"]

def concepts : List String :=
  ["=== BASIC CONCEPTS ===",
   "• A cell holds text; its value is computed from that text",
   "• Cell references use column letters + row number (A1, B2, AA10)",
   "• Numbers may use '.' or ',' as the decimal separator (3.5, 3,5)",
   "• Text that is not a valid expression is shown as-is",
   "• A leading = is optional: =A1+1 and A1+1 are the same"]

def arithmetic : List String :=
  ["=== ARITHMETIC OPERATORS ===",
   "+  -    Addition, subtraction          5+3 → 8, A1-5",
   "*  /    Multiplication, division       4*3 → 12, A1/B1",
   "^       Power (right-associative)      2^3^2 → 512",
   "+x -x   Unary sign                     -A1, -(2+3)"]

def comparison : List String :=
  ["=== COMPARISON OPERATORS ===",
   "<  >  = Compare two values             A1<B1 → TRUE or FALSE"]

def functions : List String :=
  ["=== FUNCTIONS ===",
   "inc(x)  x + 1                          inc(41) → 42",
   "dec(x)  x - 1                          dec(A1)",
   "not(x)  Logical negation               not(A1>5)"]

def note : List String :=
  ["Note: 0 is false, anything else is true"]

def errorCodes : List String :=
  ["=== ERROR CODES ===",
   "#CYCERROR   The cell is part of a circular reference",
   "#REF_ERROR  A referenced cell does not exist",
   "#SYNERROR   The formula could not be parsed"]

def commands : List String :=
  ["=== COMMANDS ===",
   "set <cell> <text>   Enter text into a cell and recompute dependents",
   "get <cell>          Show a cell's text and value",
   "show                Print the sheet",
   "recalc              Recompute every cell",
   "addrow / addcol     Append a row or column",
   "delrow / delcol     Remove the last row or column",
   "new                 Start an empty sheet",
   "save <file>         Save expressions as JSON",
   "open <file>         Load a JSON sheet",
   "export <file>       Export expressions as CSV",
   "import <file>       Import expressions from CSV",
   "help                Show this help",
   "quit                Exit"]

/-- The sections of the reference. -/
def sections : List (List String) :=
  [title, concepts, arithmetic, comparison, functions, note, errorCodes, commands]

/-- The reference, with a blank line between two sections. -/
def text : String := "\n\n".intercalate (sections.map "\n".intercalate)

end Help

end Spreadsheet
