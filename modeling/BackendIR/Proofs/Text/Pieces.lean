import BackendIR.Listing

/-!
# The pieces of a text

A text that was put together from pieces can be taken apart again if every piece stops where
the next one begins: if all characters of a piece are of some class and what follows does
not go on with that class (`BackendIR.append_inj_of_stops`). So items without blanks can be
told apart in a list with commas (`BackendIR.Listing.commas_injective`), and lines without
line feeds in a text of many lines (`BackendIR.Listing.lines_injective`).
-/

namespace BackendIR

variable {α : Type}

/-- What does not go on with elements of a class. -/
def Stops (inside : α → Prop) (rest : List α) : Prop :=
  ∀ first ∈ rest.head?, ¬inside first

theorem stops_nil (inside : α → Prop) : Stops inside [] := by
  intro first member
  cases member

/-- A rest that starts outside of the class stops. -/
theorem stops_cons {inside : α → Prop} {first : α} (outside : ¬inside first) (rest : List α) :
    Stops inside (first :: rest) := by
  intro other member
  cases member
  exact outside

/-- A rest that is outside of the class altogether stops. -/
theorem stops_of_forall {inside : α → Prop} {rest : List α}
    (outside : ∀ element ∈ rest, ¬inside element) : Stops inside rest :=
  fun first member => outside first (List.mem_of_head? member)

/-- Two rests that stop do so together, even if the first is empty. -/
theorem Stops.append {inside : α → Prop} {first second : List α}
    (firstStops : Stops inside first) (secondStops : Stops inside second) :
    Stops inside (first ++ second) := by
  cases first with
  | nil => exact secondStops
  | cons element rest => exact firstStops

/-- **Pieces can be told apart** where the first one stops. -/
theorem append_inj_of_stops {inside : α → Prop} {left right leftRest rightRest : List α}
    (leftInside : ∀ element ∈ left, inside element)
    (rightInside : ∀ element ∈ right, inside element)
    (leftStops : Stops inside leftRest) (rightStops : Stops inside rightRest)
    (same : left ++ leftRest = right ++ rightRest) : left = right ∧ leftRest = rightRest := by
  induction left generalizing right with
  | nil =>
      cases right with
      | nil => exact ⟨rfl, same⟩
      | cons first others =>
          rw [List.nil_append] at same
          rw [same] at leftStops
          exact absurd (rightInside first (.head _)) (leftStops first rfl)
  | cons element rest ih =>
      cases right with
      | nil =>
          rw [List.nil_append] at same
          rw [← same] at rightStops
          exact absurd (leftInside element (.head _)) (rightStops element rfl)
      | cons first others =>
          rw [List.cons_append, List.cons_append, List.cons.injEq] at same
          obtain ⟨rfl, later⟩ := same
          obtain ⟨pieces, rests⟩ := ih (fun other member => leftInside other (.tail _ member))
            (fun other member => rightInside other (.tail _ member)) later
          exact ⟨congrArg _ pieces, rests⟩

/-- A text all of whose characters are of some class. -/
def MadeOf (allowed : Char → Prop) (text : String) : Prop :=
  ∀ char ∈ text.toList, allowed char

instance (allowed : Char → Prop) [DecidablePred allowed] (text : String) :
    Decidable (MadeOf allowed text) :=
  List.decidableBAll allowed text.toList

/-- A text is made of a class if its two parts are. -/
theorem MadeOf.append {allowed : Char → Prop} {left right : String}
    (leftMade : MadeOf allowed left) (rightMade : MadeOf allowed right) :
    MadeOf allowed (left ++ right) := by
  intro char member
  rw [String.toList_append] at member
  rcases List.mem_append.mp member with first | second
  · exact leftMade char first
  · exact rightMade char second

/-- A text that is made of a class is made of every wider one. -/
theorem MadeOf.mono {narrow wide : Char → Prop} (wider : ∀ char, narrow char → wide char)
    {text : String} (made : MadeOf narrow text) : MadeOf wide text :=
  fun char member => wider char (made char member)

/-- A text without blanks. -/
abbrev Solid : String → Prop :=
  MadeOf fun char => char.isWhitespace = false

/-- A text without line feeds. -/
abbrev OneLine : String → Prop :=
  MadeOf fun char => char ≠ '\n'

/-- A text without blanks has no line feeds. -/
theorem Solid.oneLine {text : String} (solid : Solid text) : OneLine text := by
  intro char member
  rintro rfl
  cases solid _ member

namespace Listing

/-! ### Commas -/

private theorem commas_cons_cons (first second : String) (rest : List String) :
    commas (first :: second :: rest) = first ++ ", " ++ commas (second :: rest) :=
  String.intercalate_cons_cons

private theorem toList_commas_cons_cons (first second : String) (rest : List String) :
    (commas (first :: second :: rest)).toList =
      (first ++ ",").toList ++ ' ' :: (commas (second :: rest)).toList := by
  simp [commas_cons_cons]

private theorem not_solid_commas (first second : String) (rest : List String) :
    ¬Solid (commas (first :: second :: rest)) := by
  intro solid
  have blank : ' ' ∈ (commas (first :: second :: rest)).toList := by
    rw [toList_commas_cons_cons]
    exact List.mem_append_right _ (.head _)
  exact absurd (solid ' ' blank) (by decide)

private theorem commas_cons_ne_empty {first : String} (written : first ≠ "") (rest : List String) :
    commas (first :: rest) ≠ "" := by
  cases rest with
  | nil => simpa [commas] using written
  | cons second others =>
      rw [commas_cons_cons]
      simp

/-- Items without line feeds are listed without line feeds. -/
theorem oneLine_commas {items : List String} (lines : ∀ item ∈ items, OneLine item) :
    OneLine (commas items) := by
  induction items with
  | nil => decide
  | cons first rest ih =>
      cases rest with
      | nil => simpa [commas] using lines first (.head _)
      | cons second others =>
          rw [commas_cons_cons]
          exact .append (.append (lines first (.head _)) (by decide))
            (ih fun item member => lines item (.tail _ member))

/-- The first item ends at the first comma with a blank behind it. -/
theorem commas_cons_inj {left right : String} {leftRest rightRest : List String}
    (leftSolid : Solid left) (rightSolid : Solid right)
    (same : commas (left :: leftRest) = commas (right :: rightRest)) :
    left = right ∧ commas leftRest = commas rightRest := by
  have single (item : String) : commas [item] = item := String.intercalate_singleton
  rcases leftRest with _ | ⟨leftNext, leftOthers⟩ <;>
    rcases rightRest with _ | ⟨rightNext, rightOthers⟩
  · rw [single, single] at same
    exact ⟨same, rfl⟩
  · rw [single] at same
    exact absurd (same ▸ leftSolid) (not_solid_commas right rightNext rightOthers)
  · rw [single] at same
    exact absurd (same ▸ rightSolid) (not_solid_commas left leftNext leftOthers)
  · have texts := congrArg String.toList same
    rw [toList_commas_cons_cons, toList_commas_cons_cons] at texts
    obtain ⟨first, later⟩ := append_inj_of_stops (leftSolid.append (by decide))
      (rightSolid.append (by decide)) (stops_cons (by decide) _) (stops_cons (by decide) _) texts
    exact ⟨String.append_left_inj _ |>.mp (String.toList_inj.mp first),
      String.toList_inj.mp (List.cons.inj later).2⟩

/-- Items without blanks can be told apart. Commas may stand within an item. -/
theorem commas_injective {left right : List String}
    (leftItems : ∀ item ∈ left, Solid item ∧ item ≠ "")
    (rightItems : ∀ item ∈ right, Solid item ∧ item ≠ "") (same : commas left = commas right) :
    left = right := by
  induction left generalizing right with
  | nil =>
      cases right with
      | nil => rfl
      | cons item rest =>
          exact absurd same.symm (commas_cons_ne_empty (rightItems item (.head _)).2 rest)
  | cons item rest ih =>
      cases right with
      | nil => exact absurd same (commas_cons_ne_empty (leftItems item (.head _)).2 rest)
      | cons other others =>
          obtain ⟨rfl, later⟩ := commas_cons_inj (leftItems item (.head _)).1
            (rightItems other (.head _)).1 same
          rw [ih (fun item member => leftItems item (.tail _ member))
            (fun item member => rightItems item (.tail _ member)) later]

/-! ### Lines -/

private theorem toList_lines_cons (line : String) (rest : List String) :
    (lines (line :: rest)).toList = line.toList ++ '\n' :: (lines rest).toList := by
  simp [lines]

private theorem lines_cons_ne_empty (line : String) (rest : List String) :
    lines (line :: rest) ≠ "" := by
  simp [lines]

/-- Lines without line feeds can be told apart. -/
theorem lines_injective {left right : List String}
    (leftLines : ∀ line ∈ left, OneLine line)
    (rightLines : ∀ line ∈ right, OneLine line) (same : lines left = lines right) :
    left = right := by
  induction left generalizing right with
  | nil =>
      cases right with
      | nil => rfl
      | cons line rest => exact absurd same.symm (lines_cons_ne_empty line rest)
  | cons line rest ih =>
      cases right with
      | nil => exact absurd same (lines_cons_ne_empty line rest)
      | cons other others =>
          have texts := congrArg String.toList same
          rw [toList_lines_cons, toList_lines_cons] at texts
          obtain ⟨first, later⟩ := append_inj_of_stops (leftLines line (.head _))
            (rightLines other (.head _)) (stops_cons (by simp) _)
            (stops_cons (by simp) _) texts
          rw [String.toList_inj.mp first, ih (fun line member => leftLines line (.tail _ member))
            (fun line member => rightLines line (.tail _ member))
            (String.toList_inj.mp (List.cons.inj later).2)]

end Listing

end BackendIR
