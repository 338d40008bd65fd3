/-! What an error says: a sentence for each context that it passed through, outermost
first, and its root at the end. -/

namespace SwapDesk

structure Trail where
  outermost : String
  causes : List String := []
  deriving DecidableEq

namespace Trail

def lines (trail : Trail) : List String := trail.outermost :: trail.causes

def text (trail : Trail) : String := ": ".intercalate trail.lines

def within (context : String) (trail : Trail) : Trail := ⟨context, trail.lines⟩

/-- The lines of a text without their ends. A carriage return belongs to the end of a line;
nothing stands behind the last end. -/
def linesOf (text : String) : List String :=
  let parts := (text.splitOn "\n").map String.toList
  let closed := parts.dropLast.map fun part =>
    if part.getLast? == some '\r' then part.dropLast else part
  let last := String.ofList (parts.getLast?.getD [])
  closed.map String.ofList ++ if last.isEmpty then [] else [last]

/-- A text behind a mark, with the further lines below the first one. -/
def hanging (mark text : String) : String :=
  let indent := String.ofList (List.replicate mark.length ' ')
  match linesOf text with
  | [] => ""
  | first :: others => mark ++ ("\n" ++ indent).intercalate (first :: others)

/-- The mark of a cause: its number in five columns. -/
def mark (index : Nat) : String :=
  let digits := index.repr
  String.ofList (List.replicate (5 - digits.length) ' ') ++ digits ++ ": "

/-- The report of an error that ends a program. Several causes are numbered. -/
def report (trail : Trail) : String :=
  let causes := match trail.causes with
    | [cause] => [hanging "    " cause]
    | causes => causes.mapIdx fun index cause => hanging (mark index) cause
  let explanation := if causes.isEmpty then "" else
    "\nCaused by:\n" ++ String.join (causes.map (· ++ "\n"))
  "Error: " ++ trail.outermost ++ "\n" ++ explanation

end Trail

end SwapDesk
