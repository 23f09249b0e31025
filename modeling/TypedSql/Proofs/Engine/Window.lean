import TypedSql.Engine.Select
import TypedSql.Proofs.Sql.Kind
import TypedSql.Proofs.Sql.Window

/-!
What the engine answers to a query in a window. A limit or an offset that 63 bits hold is a number
of rows. A larger one is read as a real, which is no number of rows, and the query is refused; but
an offset is not looked at where no row is wanted.
-/

namespace TypedSql

open Sql (Expr SelectFrom operandExpr)

namespace Paging

/-- Whether a number, if it is given, is an integer to the engine. -/
def Fits : Option UInt64 → Prop
  | some n => n.toNat < 2 ^ 63
  | none => True

instance decidableFits : (number : Option UInt64) → Decidable (Fits number)
  | some n => inferInstanceAs (Decidable (n.toNat < 2 ^ 63))
  | none => .isTrue trivial

/-- Whether a window is one that the engine answers in. -/
def Answered (p : Paging) : Prop := Fits p.limit ∧ (p.limit = some 0 ∨ Fits p.offset)

instance (p : Paging) : Decidable p.Answered :=
  inferInstanceAs (Decidable (Fits p.limit ∧ (p.limit = some 0 ∨ Fits p.offset)))

/-- The numbers that are written. -/
def operands (p : Paging) : List Int := p.limitOperand.toList ++ p.offsetOperand.toList

end Paging

/-! ## Literals as numbers of rows -/

theorem Datum.ofInt_fits {n : Int} (hlow : -2 ^ 63 ≤ n) (hhigh : n < 2 ^ 63) :
    Datum.ofInt n = .integer (Int64.ofInt n) :=
  if_pos ⟨hlow, Int.le_of_lt_add_one hhigh⟩

theorem Datum.ofInt_large {n : Int} (h : 2 ^ 63 ≤ n) :
    Datum.ofInt n = .real (Binary64.ofInt n) := by
  refine if_neg fun ⟨_, hhigh⟩ => ?_
  have hmax : Int64.maxValue.toInt = 2 ^ 63 - 1 := by decide
  omega

namespace SelectPlan

def operandFormula (operand : Option Int) : Option Formula :=
  operand.map fun n => .constant (.ofInt n)

section
variable (parameters : List Datum)

theorem count_natural (n : Nat) :
    count parameters (operandFormula (some n)) =
      if n < 2 ^ 63 then .ok (some n) else .error .typeMismatch := by
  split
  · rename_i h
    have hint : Datum.ofInt n = .integer (Int64.ofInt n) :=
      Datum.ofInt_fits (by omega) (by omega)
    have hvalue : (Int64.ofInt n).toInt = n := Int64.toInt_ofInt_of_le (by omega) (by omega)
    show count parameters (some (.constant (.ofInt n))) = _
    rw [hint, count, Formula.eval]
    simp [hvalue]
  · rename_i h
    show count parameters (some (.constant (.ofInt n))) = _
    rw [Datum.ofInt_large (by omega), count, Formula.eval]

theorem count_offset (p : Paging) :
    count parameters (operandFormula p.offsetOperand) =
      if Paging.Fits p.offset then .ok (p.offset.map UInt64.toNat) else .error .typeMismatch := by
  obtain ⟨limit, offset⟩ := p
  cases offset with
  | none => rfl
  | some n => exact count_natural parameters n.toNat

theorem count_limit (p : Paging) :
    count parameters (operandFormula p.limitOperand) =
      if Paging.Fits p.limit then .ok (p.limit.map UInt64.toNat) else .error .typeMismatch := by
  obtain ⟨limit, offset⟩ := p
  cases limit with
  | some n => exact count_natural parameters n.toNat
  | none => cases offset <;> rfl

end

/-! ## The answer in a window -/

/-- The plan with another window. -/
def windowed (plan : SelectPlan) (p : Paging) : SelectPlan :=
  { plan with limit := operandFormula p.limitOperand, offset := operandFormula p.offsetOperand }

/-- A plan with a window answers with the rows of the window, or not at all. -/
theorem answer_windowed (plan : SelectPlan) (p : Paging) (parameters : List Datum)
    (rows : List (List Datum)) :
    (plan.windowed p).answer parameters rows =
      if p.Answered then .ok (p.rows (plan.results parameters rows))
      else .error .typeMismatch := by
  have hresults : (plan.windowed p).results parameters rows = plan.results parameters rows := rfl
  have hlimit : count parameters (plan.windowed p).limit =
      if Paging.Fits p.limit then .ok (p.limit.map UInt64.toNat) else .error .typeMismatch :=
    count_limit parameters p
  have hoffset : count parameters (plan.windowed p).offset =
      if Paging.Fits p.offset then .ok (p.offset.map UInt64.toNat) else .error .typeMismatch :=
    count_offset parameters p
  by_cases hfits : Paging.Fits p.limit
  · rw [if_pos hfits] at hlimit
    by_cases hzero : p.limit = some 0
    · have hanswered : p.Answered := ⟨hfits, .inl hzero⟩
      rw [answer, hresults, hlimit, if_pos hanswered, Paging.rows, hzero]
      rfl
    · have hsome : p.limit.map UInt64.toNat ≠ some 0 := by
        intro h
        obtain ⟨n, hn, hvalue⟩ := Option.map_eq_some_iff.mp h
        exact hzero (hn.trans (congrArg some (UInt64.toNat_inj.mp hvalue)))
      have hanswered : p.Answered ↔ Paging.Fits p.offset := by
        simp only [Paging.Answered, hfits, hzero, true_and, false_or]
      rw [answer, hresults, hlimit, hoffset]
      simp only [bind, Except.bind, hsome, if_false, hanswered]
      by_cases hoffset : Paging.Fits p.offset
      · rw [if_pos hoffset, if_pos hoffset]
        obtain ⟨limit, offset⟩ := p
        cases limit <;> cases offset <;> rfl
      · rw [if_neg hoffset, if_neg hoffset]
  · rw [if_neg hfits] at hlimit
    rw [answer, hlimit, if_neg fun h : p.Answered => hfits h.1]
    rfl

/-- The plan of a query in a window is that of the query without it, in that window. -/
theorem of_operands {Source : Type} (names : Names) (columns : SourceColumns)
    (q : SelectFrom Source) (p : Paging) :
    SelectPlan.of names columns
        { q with limit := operandExpr p.limitOperand, offset := operandExpr p.offsetOperand } =
      (·.windowed p) <$> SelectPlan.of names columns { q with limit := none, offset := none } := by
  have hformula (outside : Names) (operand : Option Int) :
      outside.formula? (operandExpr operand) = .ok (operandFormula operand) := by
    cases operand <;> rfl
  have hnone (outside : Names) : outside.formula? none = .ok none := rfl
  have hok {α β : Type} (a : α) (f : α → Except Fault β) : (Except.ok a >>= f) = f a := rfl
  simp only [SelectPlan.of, hformula, hnone, hok, map_bind]
  -- everything else of a plan is found without looking at the window
  refine bind_congr fun results => bind_congr fun aliases => bind_congr fun condition =>
    bind_congr fun order => bind_congr fun collations => rfl

end SelectPlan

/-! ## The window of a query -/

theorem yields_unbounded {Source : Type} (source : Sql.Parse Source) (r : Sql.Reader) :
    Yields (fun a => a.1 = { a.1 with limit := none, offset := none })
      (Sql.Parse.unbounded source r) := by
  refine yields_parse_bind (fun distinct s => ?_) r
  -- after `DISTINCT` there is no `ALL` to read; what follows is the same
  split
  on_goal 1 => refine yields_parse_bind (fun _ s => ?_) s
  all_goals
    refine yields_parse_bind (fun items s => yields_parse_bind (fun source s => ?_) s) s
    refine yields_parse_bind (fun condition s => yields_parse_bind (fun order s => ?_) s) s
    exact .ok rfl

/-- A query with a window, beside the same query without it: its limit and its offset are literals,
and where the query without it has a plan it has one too, which answers with the rows of the window
from those that the other one answers with. A window that is too large is refused. -/
structure Windowed {Source : Type} (p : Paging) (q paged : SelectFrom Source) : Prop where
  limit : paged.limit = operandExpr p.limitOperand
  offset : paged.offset = operandExpr p.offsetOperand
  answer : ∀ names columns plan, SelectPlan.of names columns q = .ok plan →
    ∃ plan', SelectPlan.of names columns paged = .ok plan' ∧
      ∀ parameters rows, ∃ all, plan.answer parameters rows = .ok all ∧
        plan'.answer parameters rows =
          if p.Answered then .ok (p.rows all) else .error .typeMismatch

theorem windowed_of_unbounded {Source : Type} {q : SelectFrom Source}
    (hq : q = { q with limit := none, offset := none }) (p : Paging) :
    Windowed p q
      { q with limit := operandExpr p.limitOperand, offset := operandExpr p.offsetOperand } where
  limit := rfl
  offset := rfl
  answer names columns plan hplan := by
    rw [hq] at hplan
    have hpaged := SelectPlan.of_operands names columns q p
    have hsame := SelectPlan.of_operands names columns q .all
    rw [hplan] at hpaged
    -- with a window that leaves everything in, the plan is the one that there is without
    have hplain : plan = plan.windowed .all := by
      have heq := hplan.symm.trans (hsame.trans (congrArg _ hplan))
      exact Except.ok.inj heq
    refine ⟨plan.windowed p, hpaged, fun parameters rows =>
      ⟨plan.results parameters rows, ?_, plan.answer_windowed p parameters rows⟩⟩
    have hanswered : Paging.all.Answered := by decide
    have hanswer := plan.answer_windowed .all parameters rows
    rw [← hplain, if_pos hanswered] at hanswer
    exact hanswer

theorem Paging.operands_fit_iff (p : Paging) :
    (∀ n ∈ p.operands, ∃ m, Datum.ofInt n = .integer m) ↔
      Paging.Fits p.limit ∧ Paging.Fits p.offset := by
  have hnatural (n : UInt64) : (∃ m, Datum.ofInt n.toNat = .integer m) ↔ n.toNat < 2 ^ 63 := by
    constructor
    · rintro ⟨m, hm⟩
      by_contra hlarge
      rw [Datum.ofInt_large (by omega)] at hm
      cases hm
    · intro h
      exact ⟨_, Datum.ofInt_fits (by omega) (by omega)⟩
  have hunbounded : ∃ m, Datum.ofInt (-1) = .integer m := ⟨-1, rfl⟩
  obtain ⟨limit, offset⟩ := p
  cases limit <;> cases offset <;>
    simp [operands, limitOperand, offsetOperand, Fits, hnatural, hunbounded]

open Sql in
/-- Limits and offsets, in any order and however often they are given, come to the last of each. The
window that is written for them reads as two literals, which are integers exactly if each number is
less than 2 to the 63rd. The query is answered with the rows of the window if that is so of both, or
of the limit alone where it is zero, and with an error otherwise. -/
theorem Rendering.paged_answer (table : String) (clauses : List Clause) :
    let p := Paging.ofClauses clauses
    (∀ r : Rendering, r.render (Query.build table clauses) =
      r.paged (Query.build table (clauses.filter (!·.isPaging))) p) ∧
    ((∀ n ∈ p.operands, ∃ m, Datum.ofInt n = .integer m) ↔
      Paging.Fits p.limit ∧ Paging.Fits p.offset) ∧
    (∀ rest, EndsNumber rest → solid (p.text.toList ++ rest) = p.tokens ++ solid rest) ∧
    (∀ {Source : Type} (source : Parse Source) (r : Reader) (q : SelectFrom Source)
      (ts more : List Sql.Token) (params : Parameters),
      ts.map Sql.Token.solid = p.tokens → ClosesQuery more →
      Parse.unbounded source r = .ok (q, ⟨ts ++ more, params⟩) →
      ∃ paged, Parse.selectFrom source r = .ok (paged, ⟨more, params⟩) ∧ Windowed p q paged) := by
  intro p
  refine ⟨fun r => r.render_build table clauses, p.operands_fit_iff,
    fun rest hrest => p.solid_text hrest, fun source r q ts more params hts hmore hq => ?_⟩
  have hunbounded := yields_unbounded source r _ hq
  exact ⟨_, Paging.selectFrom_tokens hts hmore hq, windowed_of_unbounded hunbounded p⟩

open Sql in
/-- A limit of which the last one given is too large, after one that is not. -/
theorem Rendering.paged_answer_large :
    let clauses : List Clause := [.offset 3, .limit 1, .limit 9223372036854775808]
    let window := (Paging.ofClauses clauses).tokens
    (Query.build "t" clauses).statement =
        .raw "SELECT * FROM \"t\" LIMIT 9223372036854775808 OFFSET 3" ∧
      ∃ paged, Parse.selectFrom Parse.source
          ⟨[symbolToken "*", wordToken "FROM", nameToken "t"] ++ window, {}⟩ =
            .ok (paged, ⟨[], {}⟩) ∧
        ∃ plan, SelectPlan.of ⟨[], [], [], []⟩ (.ofNames ["id"]) paged = .ok plan ∧
          ∀ parameters rows, plan.answer parameters rows = .error .typeMismatch := by
  intro clauses window
  obtain ⟨hrender, -, -, hread⟩ := Rendering.paged_answer "t" clauses
  have hwindow : window.map Sql.Token.solid = window := by decide
  obtain ⟨paged, hpaged, hanswer⟩ := hread Parse.source
    ⟨[symbolToken "*", wordToken "FROM", nameToken "t"] ++ window, {}⟩
    ⟨false, [.star], some (.table ⟨"t", none⟩), none, [], none, none⟩ window [] {} hwindow nofun rfl
  refine ⟨?_, paged, hpaged, ?_⟩
  · exact (hrender .statement).trans (by decide)
  · obtain ⟨plan, hplan, hrows⟩ := hanswer.answer ⟨[], [], [], []⟩ (.ofNames ["id"]) _ rfl
    refine ⟨plan, hplan, fun parameters rows => ?_⟩
    obtain ⟨all, -, hall⟩ := hrows parameters rows
    have hanswered : ¬ (Paging.ofClauses clauses).Answered := by decide
    rw [hall, if_neg hanswered]

end TypedSql
