import TypedSql.Proofs.Sql.Control

/-!
Kinds of statements. What a text is read as begins with its first word; so whatever the number in
it is, a text that sets a setting is read as one. A statement is quiet if it neither is about
transactions nor ends one when a row conflicts, and then its plan is quiet too.
-/

namespace TypedSql

/-- Whatever a computation gives has a property. -/
def Yields {ε α : Type} (P : α → Prop) (x : Except ε α) : Prop := ∀ a, x = .ok a → P a

namespace Yields

variable {ε α β : Type} {P : β → Prop}

theorem ok {b : β} (h : P b) : Yields P (.ok b : Except ε β) := by
  intro b' hb
  cases hb
  exact h

theorem error (e : ε) : Yields P (.error e) := by
  intro b hb
  cases hb

theorem bind_of {Q : α → Prop} {x : Except ε α} {f : α → Except ε β} (hx : Yields Q x)
    (h : ∀ a, Q a → Yields P (f a)) : Yields P (x >>= f) := by
  cases x with
  | error e => exact .error e
  | ok a => exact h a (hx a rfl)

theorem bind {x : Except ε α} {f : α → Except ε β} (h : ∀ a, Yields P (f a)) :
    Yields P (x >>= f) := bind_of (fun _ _ => trivial) fun a (_ : True) => h a

theorem map {x : Except ε α} {f : α → β} (h : ∀ a, P (f a)) : Yields P (f <$> x) := by
  cases x with
  | error e => exact .error e
  | ok a => exact .ok (h a)

end Yields

theorem yields_parse_bind {α β : Type} {P : β × Sql.Reader → Prop} {x : Sql.Parse α}
    {f : α → Sql.Parse β} (h : ∀ a s, Yields P (f a s)) (r : Sql.Reader) :
    Yields P ((x >>= f) r) := Yields.bind fun a => h a.1 a.2

namespace Sql

/-- Whether a statement can neither begin nor end a transaction. -/
def Statement.isQuiet : Statement → Bool
  | .control _ => false
  | .insert i => i.conflict != .rollback
  | _ => true

/-- A text whose first statement, if it can be read, is of a kind. -/
def Leads (kind : Statement → Prop) (sql : String) : Prop :=
  Yields (fun p => kind p.statement) (parse (tokens sql))

/-! ## Settings -/

def Statement.IsSetting (s : Statement) : Prop := ∃ setting value, s = .pragma setting value

/-- What begins with the word is read as a setting, or not at all. -/
theorem parse_pragma (space : List Char) (offset : Nat) (ts : List Token) :
    Yields (fun p => p.statement.IsSetting)
      (parse (⟨.word, "PRAGMA".toList, space, offset⟩ :: ts)) := by
  have hparse : parse (⟨.word, "PRAGMA".toList, space, offset⟩ :: ts) =
      (((Parse.pragma { rest := ts } >>= fun r =>
          .ok (.pragma r.1.1 r.1.2, r.2) : Except Fault (Statement × Reader)) >>= fun r =>
        Parse.endOfStatement r.2 >>= fun ended => .ok (r.1, ended.2)) >>= fun r =>
        .ok ⟨r.1, r.2.parameters, r.2.rest⟩) := rfl
  rw [hparse]
  refine Yields.bind_of (Q := fun r : Statement × Reader => r.1.IsSetting) ?_ ?_
  · refine Yields.bind_of (Q := fun r : Statement × Reader => r.1.IsSetting) ?_ ?_
    · exact Yields.bind fun r => Yields.ok ⟨r.1.1, r.1.2, rfl⟩
    · exact fun r hr => Yields.bind fun ended => Yields.ok hr
  · exact fun r hr => Yields.ok hr

theorem leads_pragma {kind : Statement → Prop} (h : ∀ setting value, kind (.pragma setting value))
    {sql : String} {c : Char} {rest : List Char} (hsql : sql.toList = "PRAGMA ".toList ++ c :: rest)
    (hspace : isSpaceChar c = false) (hnul : c ≠ '\x00') : Leads kind sql := by
  have htake : sql.toList.takeWhile (· != '\x00') =
      'P' :: ("RAGMA".toList ++ ' ' :: c :: rest.takeWhile (· != '\x00')) := by
    have hword : "PRAGMA ".toList.all (· != '\x00') = true := by decide
    rw [hsql, List.takeWhile_append_of_pos (List.all_eq_true.mp hword),
      List.takeWhile_cons_of_pos (by simp [hnul])]
    rfl
  have htokens : ∃ space ts, tokens sql = ⟨.word, "PRAGMA".toList, space, 0⟩ :: ts := by
    rw [tokens, htake, lexemes_word rfl hspace]
    exact ⟨_, _, rfl⟩
  obtain ⟨space, ts, htokens⟩ := htokens
  intro p hp
  rw [htokens] at hp
  obtain ⟨setting, value, hs⟩ := parse_pragma space 0 ts p hp
  rw [hs]
  exact h setting value

/-- A text that is about a setting, whatever follows its name. -/
theorem leads_setting {kind : Statement → Prop} (h : ∀ setting value, kind (.pragma setting value))
    (setting : Pragma) (rest : String) : Leads kind ("PRAGMA " ++ setting.name ++ rest) := by
  cases setting with
  | userVersion =>
      exact leads_pragma h (c := 'u') (by rw [String.toList_append]; rfl) rfl (by decide)
  | foreignKeys =>
      exact leads_pragma h (c := 'f') (by rw [String.toList_append]; rfl) rfl (by decide)

end Sql

/-! ## Plans -/

def Plan.isQuiet : Plan → Bool
  | .control _ => false
  | .insert p => p.conflict != .rollback
  | _ => true

/-- What is known of the plan of a statement. -/
structure Plan.Serves (s : Sql.Statement) (q : Plan) : Prop where
  control : ∀ c, q = .control c → s = .control c
  insert : ∀ p, q = .insert p → ∃ i, s = .insert i ∧ p.conflict = i.conflict
  /-- A table is created without rows. -/
  createTable : ∀ t, q = .createTable t → t.rows = []

theorem plan_serves (p : Planner) (s : Sql.Statement) : Yields (Plan.Serves s) (p.plan s) := by
  cases s with
  | select q => exact .bind fun _ => .bind fun _ => .ok ⟨nofun, nofun, nofun⟩
  | insert i =>
      refine .bind fun _ => .bind fun _ => .bind fun _ => .bind fun _ => .bind fun _ => .ok ?_
      refine ⟨nofun, fun q hq => ⟨i, rfl, ?_⟩, nofun⟩
      cases hq
      rfl
  | update u =>
      exact .bind fun _ => .bind fun _ => .bind fun _ => .bind fun _ => .ok ⟨nofun, nofun, nofun⟩
  | delete d => exact .bind fun _ => .bind fun _ => .bind fun _ => .ok ⟨nofun, nofun, nofun⟩
  | createTable d =>
      show Yields _ (p.createTable d)
      unfold Planner.createTable
      split
      · split
        · exact .map fun _ => ⟨nofun, nofun, nofun⟩
        · exact .error _
      · refine .map fun _ => ⟨nofun, nofun, fun t ht => ?_⟩
        cases ht
        rfl
  | control c =>
      refine .ok ⟨fun d hd => ?_, nofun, nofun⟩
      cases hd
      rfl
  | pragma setting value => exact .ok ⟨nofun, nofun, nofun⟩
  | empty => exact .ok ⟨nofun, nofun, nofun⟩

theorem plan_insert (p : Planner) (i : Sql.Insert) :
    Yields (fun q => ∃ r, q = .insert r) (p.plan (.insert i)) :=
  .bind fun _ => .bind fun _ => .bind fun _ => .bind fun _ => .bind fun _ => .ok ⟨_, rfl⟩

/-- A quiet statement has a quiet plan. -/
theorem plan_isQuiet (p : Planner) {s : Sql.Statement} (h : s.isQuiet = true) :
    Yields (fun q => q.isQuiet = true) (p.plan s) := by
  intro q hq
  have hserves := plan_serves p s q hq
  cases q with
  | control c =>
      rw [hserves.control c rfl] at h
      cases h
  | insert i =>
      obtain ⟨j, rfl, hconflict⟩ := hserves.insert i rfl
      rw [Plan.isQuiet, hconflict]
      exact h
  | _ => rfl

end TypedSql
