/-!
# Listings

How several texts become one: items with commas between them, and lines that
each end in a line feed.
-/

namespace BackendIR.Listing

/-- Items with a comma and a blank between them. -/
def commas (items : List String) : String :=
  ", ".intercalate items

/-- Lines, each ended by a line feed. -/
def lines : List String → String
  | [] => ""
  | line :: rest => line ++ "\n" ++ lines rest

/-- Two lists of lines are written one after the other. -/
@[simp] theorem lines_append (first second : List String) :
    lines (first ++ second) = lines first ++ lines second := by
  induction first with
  | nil => simp [lines]
  | cons line rest ih => simp [lines, ih, String.append_assoc]

end BackendIR.Listing
