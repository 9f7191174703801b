import BackendIR.Proofs.Operand.Bank
import BackendIR.Proofs.Walk.Coverage
import BackendIR.Standard

/-!
# Shuffles group by group

The survey of a shuffle goes through its operands in groups of three. It is accepted if each
group ends in a width (`BackendIR.Survey.outcome_moves_eq_ok_iff`), and then lists three sites for
each group, which depend on that group alone (`BackendIR.Survey.sites_moves_group`). Where accepted
complete groups end, the rest is surveyed as if it stood alone (`BackendIR.Survey.moves_append`);
one or two operands there are not looked at (`BackendIR.Survey.moves_append_short`).
-/

namespace BackendIR

namespace Survey

/-- The survey with every position moved on. -/
def shifted (survey : Survey) (count : Nat) : Survey :=
  { survey with
    sites := survey.sites.map fun site => { site with position := site.position + count } }

variable {opcode : Opcode} {position : Nat} {operands front back : List Operand}

/-- Moves are accepted exactly if every complete group ends in a width. -/
theorem outcome_moves_eq_ok_iff :
    (moves opcode position operands).outcome = .ok () ↔
      ∀ group tag, operands[3 * group + 2]? = some tag → ∃ width, tag = .width width := by
  fun_induction moves opcode position operands with
  | case1 position source target tag rest width found bank ih =>
      obtain rfl : tag = .width width := Operand.width?_eq_some_iff.mp found
      change (moves opcode (position + 3) rest).outcome = .ok () ↔ _
      rw [ih]
      constructor
      · intro good group tag there
        cases group with
        | zero => exact ⟨width, (Option.some.inj there).symm⟩
        | succ group => exact good group tag there
      · exact fun good group => good (group + 1)
  | case2 position source target tag rest missing =>
      constructor
      · intro accepted
        cases accepted
      · intro good
        obtain ⟨width, rfl⟩ := good 0 tag rfl
        cases missing
  | case3 operands position short =>
      refine iff_of_true rfl fun group tag there => ?_
      have few := length_lt_of_no_group short
      obtain ⟨inside, -⟩ := List.getElem?_eq_some_iff.mp there
      omega

/-- The sites of a group in an accepted survey. -/
theorem sites_moves_group (accepted : (moves opcode position operands).outcome = .ok ())
    {group : Nat} {source target : Operand} {width : Width}
    (first : operands[3 * group]? = some source)
    (second : operands[3 * group + 1]? = some target)
    (third : operands[3 * group + 2]? = some (.width width)) :
    let sites := (moves opcode position operands).sites
    let start := position + 3 * group
    let bank := source.moveBank target
    sites[3 * group]? = some ⟨start, .use, bank, width⟩ ∧
      sites[3 * group + 1]? = some ⟨start + 1, .define, bank, width⟩ ∧
      sites[3 * group + 2]? = some ⟨start + 2, .use, .gp, .w8⟩ := by
  fun_induction moves opcode position operands generalizing group with
  | case1 position leading following tag rest tagged found bank ih =>
      cases group with
      | zero =>
          obtain rfl : leading = source := Option.some.inj first
          obtain rfl : following = target := Option.some.inj second
          obtain rfl : tag = .width width := Option.some.inj third
          obtain rfl : width = tagged := Option.some.inj found
          exact ⟨rfl, rfl, rfl⟩
      | succ group =>
          have later := ih accepted first second third
          rwa [Nat.add_assoc, Nat.add_comm 3] at later
  | case2 position leading following tag rest missing => cases accepted
  | case3 operands position short =>
      have few := length_lt_of_no_group short
      obtain ⟨inside, -⟩ := List.getElem?_eq_some_iff.mp third
      omega

/-! ### Shuffles one after another -/

/-- A group that ends in a width has three sites, and the rest is surveyed behind it. -/
theorem moves_group (opcode : Opcode) (position : Nat) (source target : Operand) (width : Width)
    (rest : List Operand) :
    moves opcode position (source :: target :: .width width :: rest) =
      listed
        [⟨position, .use, source.moveBank target, width⟩,
          ⟨position + 1, .define, source.moveBank target, width⟩, ⟨position + 2, .use, .gp, .w8⟩]
        (moves opcode (position + 3) rest) := rfl

private theorem moves_of_bad {tag : Operand} (missing : tag.width? = none) (source target : Operand)
    (rest : List Operand) :
    moves opcode position (source :: target :: tag :: rest) =
      refused (.malformed opcode.name (.notAWidth tag)) := by
  rw [moves, missing]

private theorem moves_of_short (few : operands.length < 3) :
    moves opcode position operands = done := by
  rcases operands with _ | ⟨source, _ | ⟨target, _ | ⟨tag, rest⟩⟩⟩
  · rfl
  · rfl
  · rfl
  · simp only [List.length_cons] at few
    omega

/-- Complete groups without a first one are none at all. -/
theorem eq_nil_of_no_group (whole : 3 ∣ operands.length)
    (short : ∀ source target tag rest, operands ≠ source :: target :: tag :: rest) :
    operands = [] :=
  List.length_eq_zero_iff.mp (Nat.eq_zero_of_dvd_of_lt whole (length_lt_of_no_group short))

private theorem listed_listed (first second : List Site) (rest : Survey) :
    listed first (listed second rest) = listed (first ++ second) rest := by
  simp only [listed, List.append_assoc]

private theorem shifted_listed (sites : List Site) (rest : Survey) (count : Nat) :
    (listed sites rest).shifted count =
      listed (sites.map fun site => { site with position := site.position + count })
        (rest.shifted count) := by
  simp only [shifted, listed, List.map_append]

/-- A shuffle that starts further on is surveyed in the same way. -/
theorem moves_add (opcode : Opcode) (position count : Nat) (operands : List Operand) :
    moves opcode (position + count) operands = (moves opcode position operands).shifted count := by
  fun_induction moves opcode position operands with
  | case1 position source target tag rest width found bank ih =>
      obtain rfl : tag = .width width := Operand.width?_eq_some_iff.mp found
      rw [moves_group, shifted_listed, ← ih]
      simp [bank, Nat.add_right_comm]
  | case2 position source target tag rest missing => exact moves_of_bad missing source target rest
  | case3 operands position short => exact moves_of_short (length_lt_of_no_group short)

/-- Behind accepted complete groups the survey goes on with what follows. -/
theorem moves_append (whole : 3 ∣ front.length)
    (accepted : (moves opcode position front).outcome = .ok ()) :
    moves opcode position (front ++ back) =
      listed (moves opcode position front).sites (moves opcode (position + front.length) back) := by
  fun_induction moves opcode position front with
  | case1 position source target tag rest width found bank ih =>
      obtain rfl : tag = .width width := Operand.width?_eq_some_iff.mp found
      have fewer : 3 ∣ rest.length := (Nat.dvd_add_left (Nat.dvd_refl 3)).mp whole
      simp only [List.cons_append, List.length_cons]
      rw [moves_group, ih fewer accepted, listed_listed]
      simp [listed, bank, Nat.add_assoc, Nat.add_comm 3]
  | case2 position source target tag rest missing => cases accepted
  | case3 front position short =>
      obtain rfl := eq_nil_of_no_group whole short
      rfl

/-- One or two operands behind complete groups are not looked at. -/
theorem moves_append_short (whole : 3 ∣ front.length) (few : back.length < 3) :
    moves opcode position (front ++ back) = moves opcode position front := by
  fun_induction moves opcode position front with
  | case1 position source target tag rest width found bank ih =>
      obtain rfl : tag = .width width := Operand.width?_eq_some_iff.mp found
      have fewer : 3 ∣ rest.length := (Nat.dvd_add_left (Nat.dvd_refl 3)).mp whole
      simp only [List.cons_append]
      rw [moves_group, ih fewer]
  | case2 position source target tag rest missing => exact moves_of_bad missing source target _
  | case3 front position short =>
      obtain rfl := eq_nil_of_no_group whole short
      exact moves_of_short few

end Survey

/-- **Shuffles are surveyed group by group.** A shuffle is accepted exactly if every complete
group ends in a width. Each group then has three sites: its source is used and its target
defined in the group's width and in a bank that is general purpose if both can be; the width is used
as a small number. Both ends admit that bank exactly if they can share one. What follows
accepted complete groups is surveyed as if it stood alone, and one or two operands behind
complete groups change nothing. -/
theorem Instr.shuffle_survey_by_groups (instr : Instr) :
    (∀ table : ConventionTable, table.convention? instr.opcode = some (.derived .shuffle) →
        instr.survey table = instr.surveyBy .shuffle) ∧
      ((instr.surveyBy .shuffle).outcome = .ok () ↔
        ∀ (group : Nat) (tag : Operand), instr.operands[3 * group + 2]? = some tag →
          ∃ width, tag = .width width) ∧
      ((instr.surveyBy .shuffle).outcome = .ok () →
        let sites := (instr.surveyBy .shuffle).sites
        sites.length = 3 * (instr.operands.length / 3) ∧
        ∀ (group : Nat) (source target : Operand) (width : Width),
          instr.operands[3 * group]? = some source → instr.operands[3 * group + 1]? = some target →
          instr.operands[3 * group + 2]? = some (.width width) →
          ∃ bank : Bank, (bank = .gp ↔ source.isGP ∧ target.isGP) ∧
            sites[3 * group]? = some ⟨3 * group, .use, bank, width⟩ ∧
            sites[3 * group + 1]? = some ⟨3 * group + 1, .define, bank, width⟩ ∧
            sites[3 * group + 2]? = some ⟨3 * group + 2, .use, .gp, .w8⟩ ∧
            (source.admits bank ∧ target.admits bank ↔ source.canShareBank target)) ∧
      (∀ front back : List Operand, 3 ∣ front.length →
        ({ instr with operands := front }.surveyBy .shuffle).outcome = .ok () →
        { instr with operands := front ++ back }.surveyBy .shuffle =
          .listed ({ instr with operands := front }.surveyBy .shuffle).sites
            (({ instr with operands := back }.surveyBy .shuffle).shifted front.length)) ∧
      ∀ front back : List Operand, 3 ∣ front.length → back.length < 3 →
        { instr with operands := front ++ back }.surveyBy .shuffle =
          { instr with operands := front }.surveyBy .shuffle := by
  refine ⟨fun table bound => survey_of_bound bound, Survey.outcome_moves_eq_ok_iff, ?_, ?_, ?_⟩
  · intro accepted
    refine ⟨Survey.length_sites_moves accepted, ?_⟩
    intro group source target width first second third
    obtain ⟨used, defined, tagged⟩ := Survey.sites_moves_group accepted first second third
    rw [Nat.zero_add] at used defined tagged
    exact ⟨source.moveBank target, Operand.moveBank_eq_gp_iff, used, defined, tagged,
      Operand.admits_moveBank_iff⟩
  · intro front back whole accepted
    change Survey.moves instr.opcode 0 (front ++ back) = _
    rw [Survey.moves_append whole accepted, Survey.moves_add]
    rfl
  · intro front back whole few
    exact Survey.moves_append_short whole few

/-- A floating point value goes to memory and to a general purpose value, which cannot share its
bank. -/
theorem Instr.shuffle_survey_by_groups_mixed :
    let low : Operand := .temp (.virtual .gp 0)
    let high : Operand := .temp (.virtual .fp 0)
    let front : List Operand := [high, .stack ⟨0⟩ 8, .width .w64]
    let back : List Operand := [high, low, .width .w32]
    let shuffle (operands : List Operand) : Instr := ⟨Standard.shuffle, operands, .none⟩
    let survey (operands : List Operand) : Survey := (shuffle operands).surveyBy .shuffle
    let table := ConventionTable.empty.bind Standard.shuffle (.derived .shuffle)
    (table.convention? Standard.shuffle = some (.derived .shuffle) ∧
        (shuffle front).survey table = survey front) ∧
      ((survey (front ++ back)).outcome = .ok () ∧
        ∃ bank : Bank, (bank = .gp ↔ high.isGP ∧ low.isGP) ∧
          (survey (front ++ back)).sites[3]? = some ⟨3, .use, bank, .w32⟩ ∧
          (survey (front ++ back)).sites[4]? = some ⟨4, .define, bank, .w32⟩ ∧
          (survey (front ++ back)).sites[5]? = some ⟨5, .use, .gp, .w8⟩ ∧
          ¬ (high.admits bank ∧ low.admits bank)) ∧
      ((survey front).outcome = .ok () ∧
        survey (front ++ back) = .listed (survey front).sites ((survey back).shifted 3)) ∧
      survey (front ++ [low, low]) = survey front := by
  intro low high front back shuffle survey table
  have accepted : (survey (front ++ back)).outcome = .ok () := rfl
  obtain ⟨-, -, groups, -⟩ := shuffle_survey_by_groups (shuffle (front ++ back))
  obtain ⟨tabled, -, -, appended, trailing⟩ := shuffle_survey_by_groups (shuffle front)
  refine ⟨⟨rfl, tabled table rfl⟩, ⟨accepted, ?_⟩, ⟨rfl, appended front back ?_ rfl⟩,
    trailing front [low, low] ?_ ?_⟩
  · obtain ⟨bank, general, used, defined, tagged, shared⟩ :=
      (groups accepted).2 1 high low .w32 rfl rfl rfl
    refine ⟨bank, general, used, defined, tagged, fun admitted => ?_⟩
    have impossible := shared.mp admitted
    exact absurd impossible (by decide)
  · exact Nat.dvd_refl 3
  · exact Nat.dvd_refl 3
  · decide

end BackendIR
