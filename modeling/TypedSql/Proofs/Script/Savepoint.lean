import TypedSql.Proofs.Script.Quiet

/-!
Savepoints around bodies. A savepoint whose body fails stays on the stack, and the statements that
end a savepoint find it by its name. So a body whose own savepoints failed can leave some behind that
have the name of the savepoint around it, and then the wrong one is released or gone back to. Where
it leaves none of that name, the savepoint is released alone, or its content restored.
-/

namespace TypedSql

namespace Store

/-- The savepoint that is set now. -/
def point (s : Store) (name : String) : Savepoint := ⟨name, s.content, s.deferred⟩

/-- Brackets leave the savepoints alone that were there before them, and what is left inside those
has names as the brackets have. -/
theorem nests_above (named : String → Prop) :
    Store.Nests named fun base s => base ≠ [] ∧ s.Above named base where
  isOpen := by
    rintro base s ⟨hne, habove⟩
    cases ht : s.transaction with
    | none =>
        have hsuffix := habove.suffix
        rw [savepoints, ht] at hsuffix
        exact absurd (List.suffix_nil.mp hsuffix) hne
    | some t => exact ⟨t, rfl⟩
  enter := by
    intro base s name _ _
    refine ⟨?_, above_self _ _⟩
    rw [savepoint_savepoints]
    exact List.cons_ne_nil _ _
  stay := by
    rintro base s name u hname ⟨hne, habove⟩ ⟨_, hu⟩
    rw [savepoint_savepoints] at hu
    exact ⟨hne, habove.trans hname hu⟩
  leave := by
    rintro base s name u v hname ⟨hne, habove⟩ ⟨_, hu⟩ hleave
    rw [savepoint_savepoints] at hu
    obtain ⟨p, hp⟩ := release_savepoints hleave
    have hfrom := suffix_savepointsFrom hu.suffix (sameName_refl name)
    have hv : v.savepoints <:+ u.savepoints :=
      (List.suffix_cons p _).trans (hp ▸ savepointsFrom_suffix u name)
    rw [hp] at hfrom
    refine ⟨hne, ?_⟩
    rcases List.suffix_cons_iff.mp hfrom with heq | htail
    · obtain ⟨inner, hs, hinner⟩ := habove
      exact ⟨inner, (List.cons.inj heq).2.symm.trans hs, hinner⟩
    · exact habove.trans hname (hu.of_suffix hv htail)
  undo := by
    rintro base s name u v hname ⟨hne, habove⟩ ⟨_, hu⟩ hundo
    rw [savepoint_savepoints] at hu
    have hfrom := suffix_savepointsFrom hu.suffix (sameName_refl name)
    have hv := savepointsFrom_suffix u name
    rw [← (rollbackTo_savepoints hundo).1] at hfrom hv
    exact ⟨hne, habove.trans hname (hu.of_suffix hv hfrom)⟩

end Store

/-- A number can be a name. -/
theorem Connection.nul_notMem_savepointName (c : Connection) :
    '\x00' ∉ (c.savepointName none).toList := by
  have hdigits : (c.savepointName none).toList = Nat.toDigits 10 (c.savepoints + 1) :=
    Nat.toList_repr
  intro hmem
  rw [hdigits] at hmem
  exact absurd (Nat.isDigit_of_mem_toDigits (by decide) (by decide) hmem) (by decide)

namespace Step

variable {c : Connection} {name : Option String} {body : List Step}

/-- The connection that the body of a savepoint starts with. -/
def entered (name : Option String) (c : Connection) : Connection :=
  (((Connection.savepointBracket name c).2.trace
    (Bracket.savepoint (c.savepointName name)).enter).withStore
      (c.engine.store.savepoint (c.savepointName name))).untraced

/-- A name with a NUL character in it is refused before anything is done. -/
theorem take_savepoint_refused (h : '\x00' ∈ (c.savepointName name).toList) :
    ∃ fault, take (.savepoint name body) c =
      (.bracket [] [] (some (.preparing (Bracket.savepoint (c.savepointName name)).enter fault))
          ⟨c.traced, c.status⟩,
        (Connection.savepointBracket name c).2.untraced) := by
  obtain ⟨fault, hfault⟩ := Sql.parse_savepoint_nul h
  have hrun := run_unreadable hfault (Connection.savepointBracket name c).2
  refine ⟨fault, ?_⟩
  rw [take, StateM.bind_apply, savepointBracket_bracket, bracketed_refused hrun]
  cases name <;> rfl

theorem enter_entered (h : '\x00' ∉ (c.savepointName name).toList) :
    (Bracket.savepoint (c.savepointName name)).entered? (Connection.savepointBracket name c).2 =
      some (entered name c) := by
  have hrun := run_control (Bracket.controls_savepoint h).enter
    (Connection.savepointBracket name c).2
  rw [Connection.control, Store.control, savepointBracket_engine] at hrun
  exact Bracket.entered?_ok hrun

/-- A savepoint whose name can be written is entered, and closed after its body. -/
theorem take_savepoint (body : List Step) (h : '\x00' ∉ (c.savepointName name).toList) :
    (take (.savepoint name body) c).1.failure? =
        (match ((Bracket.savepoint (c.savepointName name)).close
            (takeBody body (entered name c)).1.2 (takeBody body (entered name c)).2).1 with
          | .error failure => some failure
          | .ok () => none) ∧
      (take (.savepoint name body) c).2.engine =
        ((Bracket.savepoint (c.savepointName name)).close
          (takeBody body (entered name c)).1.2 (takeBody body (entered name c)).2).2.engine := by
  have hrun := run_control (Bracket.controls_savepoint h).enter
    (Connection.savepointBracket name c).2
  rw [Connection.control, Store.control, savepointBracket_engine] at hrun
  rw [take, StateM.bind_apply, savepointBracket_bracket, bracketed_entered hrun]
  exact ⟨rfl, rfl⟩

/-- A savepoint that goes well releases the savepoint that its name means then. -/
theorem released_of_ok (h : '\x00' ∉ (c.savepointName name).toList)
    (hok : (take (.savepoint name body) c).1.failure? = none) :
    (takeBody body (entered name c)).2.engine.store.release (c.savepointName name) =
      .ok (take (.savepoint name body) c).2.engine.store := by
  obtain ⟨hfailure, hengine⟩ := take_savepoint body h
  have hcontrols := Bracket.controls_savepoint h
  rw [hok] at hfailure
  rw [hengine]
  cases hresult : (takeBody body (entered name c)).1.2 with
  | error f =>
      rw [hresult, Bracket.close_error] at hfailure
      cases hfailure
  | ok a =>
      rw [hresult, Bracket.close_ok hcontrols, Store.control] at hfailure
      rw [Bracket.close_ok hcontrols, Store.control]
      cases hrelease : (takeBody body (entered name c)).2.engine.store.release
          (c.savepointName name) with
      | ok s => rfl
      | error e =>
          rw [hrelease] at hfailure
          cases hfailure

/-- A savepoint whose body fails goes back to the savepoint that its name means then. -/
theorem undone_of_error (h : '\x00' ∉ (c.savepointName name).toList) {f : Failure}
    (hf : (takeBody body (entered name c)).1.2 = .error f) :
    match (takeBody body (entered name c)).2.engine.store.rollbackTo (c.savepointName name) with
    | .ok s =>
        (take (.savepoint name body) c).1.failure? = some f ∧
          (take (.savepoint name body) c).2.engine.store = s
    | .error _ =>
        (take (.savepoint name body) c).2.engine.store =
          (takeBody body (entered name c)).2.engine.store := by
  obtain ⟨hfailure, hengine⟩ := take_savepoint body h
  have hcontrols := Bracket.controls_savepoint h
  rw [hf, Bracket.close_error, Bracket.rollBack_apply hcontrols, Store.control] at hfailure hengine
  cases hundo : (takeBody body (entered name c)).2.engine.store.rollbackTo
      (c.savepointName name) with
  | ok s =>
      rw [hundo] at hfailure hengine
      exact ⟨hfailure, congrArg Engine.store hengine⟩
  | error e =>
      rw [hundo] at hengine
      rw [hengine]
      simp

/-- Released alone: the savepoint that the name means stands right above those from before. -/
theorem released_iff (h : '\x00' ∉ (c.savepointName name).toList)
    (hok : (take (.savepoint name body) c).1.failure? = none) :
    (take (.savepoint name body) c).2.engine.store.savepoints = c.engine.store.savepoints ↔
      ∃ p, sameName p.name (c.savepointName name) = true ∧
        (takeBody body (entered name c)).2.engine.store.Unshadowed (c.savepointName name)
          (p :: c.engine.store.savepoints) := by
  obtain ⟨p, hp⟩ := Store.release_savepoints (released_of_ok h hok)
  constructor
  · intro heq
    rw [heq] at hp
    exact ⟨p, Store.savepointsFrom_eq_iff.mp hp⟩
  · rintro ⟨q, hq⟩
    rw [Store.savepointsFrom_eq_iff.mpr hq] at hp
    exact (List.cons.inj hp).2.symm

/-- Undone right: the savepoint that the name means is the one that was set before the body. -/
theorem undone_iff (h : '\x00' ∉ (c.savepointName name).toList) {f : Failure}
    (hf : (takeBody body (entered name c)).1.2 = .error f) :
    ((take (.savepoint name body) c).1.failure? = some f ∧
        (take (.savepoint name body) c).2.engine.store.content = c.engine.store.content ∧
        (take (.savepoint name body) c).2.engine.store.savepoints =
          c.engine.store.point (c.savepointName name) :: c.engine.store.savepoints) ↔
      (takeBody body (entered name c)).2.engine.store.Unshadowed (c.savepointName name)
        (c.engine.store.point (c.savepointName name) :: c.engine.store.savepoints) := by
  have hsame := sameName_refl (c.savepointName name)
  have hundone := undone_of_error h hf
  constructor
  · rintro ⟨_, _, hstack⟩
    cases hundo : (takeBody body (entered name c)).2.engine.store.rollbackTo
        (c.savepointName name) with
    | ok s =>
        rw [hundo] at hundone
        rw [hundone.2, (Store.rollbackTo_savepoints hundo).1] at hstack
        exact (Store.savepointsFrom_eq_iff.mp hstack).2
    | error e =>
        -- Nothing was undone, so the savepoint is innermost; but then it could have been.
        rw [hundo] at hundone
        rw [hundone] at hstack
        exact ⟨[], hstack, by simp⟩
  · intro hun
    have hfrom := Store.savepointsFrom_eq_iff.mpr ⟨hsame, hun⟩
    obtain ⟨s, hundo⟩ := Store.rollbackTo_ok hfrom
    obtain ⟨hstack, p, hp, hcontent⟩ := Store.rollbackTo_savepoints hundo
    rw [hundo] at hundone
    rw [hfrom] at hp hstack
    rw [hundone.2, hcontent, hstack, ← (List.cons.inj hp).1]
    exact ⟨hundone.1, rfl, rfl⟩

/-- What a body leaves on the stack stands above the savepoint that was set before it, and has names
as the savepoints in the body have. -/
theorem body_above {named : String → Prop} {keep : List Savepoint → Engine → Engine → Prop}
    {base : List Savepoint} (hname : '\x00' ∉ (c.savepointName name).toList)
    (hkeep : ∀ base e f, keep base e f → e.store.Above named base → f.store.Above named base)
    (hnumbers : ∀ n, (entered name c).savepoints < n → named (toString n))
    (hnamed : AllNamed named body) (h : Allowed keep base (.savepoint name body) c) :
    (takeBody body (entered name c)).2.engine.store.Above named
      (c.engine.store.point (c.savepointName name) :: c.engine.store.savepoints) := by
  have hentered : (entered name c).engine.store.savepoints =
      c.engine.store.point (c.savepointName name) :: c.engine.store.savepoints :=
    Store.savepoint_savepoints _ _
  have hpreserves : Preserves named (entered name c).savepoints keep
      fun base s => base ≠ [] ∧ s.Above named base :=
    ⟨Store.nests_above named, hnumbers, fun base _ _ _ hk hs => ⟨hs.1, hkeep base _ _ hk hs.2⟩⟩
  rw [Allowed] at h
  rw [savepointBracket_bracket] at h
  have hbody := takeBody_preserves hpreserves body _ _ hnamed (Nat.le_refl _)
    (h _ (enter_entered hname))
    ⟨by rw [hentered]; exact List.cons_ne_nil _ _, Store.above_self _ _⟩
  rw [hentered] at hbody
  exact hbody.2

/-- What a body leaves on the stack stands above the savepoint that was set before it. -/
theorem point_suffix (hname : '\x00' ∉ (c.savepointName name).toList) {base : List Savepoint}
    (h : Allowed Engine.KeepsSavepoints base (.savepoint name body) c) :
    c.engine.store.point (c.savepointName name) :: c.engine.store.savepoints <:+
      (takeBody body (entered name c)).2.engine.store.savepoints := by
  have habove : (takeBody body (entered name c)).2.engine.store.Above (fun _ => True)
      (c.engine.store.point (c.savepointName name) :: c.engine.store.savepoints) :=
    body_above hname (fun base e f hkeep he => Store.above_any (hkeep he.suffix))
      (fun _ _ => trivial) (allNamed_any body) h
  exact habove.suffix

/-- Then the failure of a body is given as it is. -/
theorem failure_of_body (hname : '\x00' ∉ (c.savepointName name).toList) {base : List Savepoint}
    (h : Allowed Engine.KeepsSavepoints base (.savepoint name body) c) {f : Failure}
    (hf : (takeBody body (entered name c)).1.2 = .error f) :
    (take (.savepoint name body) c).1.failure? = some f := by
  have hfrom := Store.suffix_savepointsFrom (point_suffix hname h)
    (sameName_refl (c.savepointName name))
  have hundone := undone_of_error hname hf
  cases hstack : (takeBody body (entered name c)).2.engine.store.savepointsFrom
      (c.savepointName name) with
  | nil =>
      rw [hstack] at hfrom
      exact absurd (List.suffix_nil.mp hfrom) (List.cons_ne_nil _ _)
  | cons p outer =>
      obtain ⟨s, hundo⟩ := Store.rollbackTo_ok hstack
      rw [hundo] at hundone
      exact hundone.1

/-- What a savepoint does, for every name, every body and every connection. Released, it leaves the
savepoints as they were exactly if none that its body left inside it has its name; the same decides
whether a failure of its body brings back the content and leaves it innermost on the stack. Where no
statement of a body takes away a savepoint around it, the savepoint is still there at the end. -/
theorem savepoint_exact (name : Option String) (body : List Step) (c : Connection) :
    ('\x00' ∈ (c.savepointName name).toList →
      ∃ fault, take (.savepoint name body) c =
        (.bracket [] [] (some (.preparing (Bracket.savepoint (c.savepointName name)).enter fault))
            ⟨c.traced, c.status⟩,
          (Connection.savepointBracket name c).2.untraced)) ∧
    ('\x00' ∉ (c.savepointName name).toList →
      ((take (.savepoint name body) c).1.failure? = none →
        ((take (.savepoint name body) c).2.engine.store.savepoints = c.engine.store.savepoints ↔
          ∃ p, sameName p.name (c.savepointName name) = true ∧
            (takeBody body (entered name c)).2.engine.store.Unshadowed (c.savepointName name)
              (p :: c.engine.store.savepoints))) ∧
      (∀ f, (takeBody body (entered name c)).1.2 = .error f →
        ((take (.savepoint name body) c).1.failure? = some f ∧
            (take (.savepoint name body) c).2.engine.store.content = c.engine.store.content ∧
            (take (.savepoint name body) c).2.engine.store.savepoints =
              c.engine.store.point (c.savepointName name) :: c.engine.store.savepoints ↔
          (takeBody body (entered name c)).2.engine.store.Unshadowed (c.savepointName name)
            (c.engine.store.point (c.savepointName name) :: c.engine.store.savepoints))) ∧
      (∀ base, Allowed Engine.KeepsSavepoints base (.savepoint name body) c →
        c.engine.store.point (c.savepointName name) :: c.engine.store.savepoints <:+
            (takeBody body (entered name c)).2.engine.store.savepoints ∧
          ∀ f, (takeBody body (entered name c)).1.2 = .error f →
            (take (.savepoint name body) c).1.failure? = some f)) := by
  refine ⟨take_savepoint_refused, fun hname => ⟨fun hok => ?_, fun f hf => ?_, fun base h => ?_⟩⟩
  · exact released_iff hname hok
  · exact undone_iff hname hf
  · exact ⟨point_suffix hname h, fun f hf => failure_of_body hname h hf⟩

/-- A savepoint within one of the same name: its failure is that of the outer body too, but only
what the inner one did is undone. -/
theorem savepoint_exact_same_name :
    let inner : Step := .savepoint (some "a") [.fail "x"]
    let c : Connection := { engine := {} }
    (take (.savepoint (some "A") [inner]) c).1.failure? =
        some (.configuration (.other "x")) ∧
      ¬((take (.savepoint (some "A") [inner]) c).2.engine.store.content = c.engine.store.content ∧
        (take (.savepoint (some "A") [inner]) c).2.engine.store.savepoints =
          [c.engine.store.point "A"]) := by
  intro inner c
  let d := entered (some "A") c
  have hinner := (((savepoint_exact (some "a") [.fail "x"] d).2 (by decide)).2.1
    (.configuration (.other "x")) rfl).mpr ⟨[], rfl, by simp⟩
  have hbody : takeBody [inner] d =
      (([(take inner d).1], .error (.configuration (.other "x"))), (take inner d).2) := by
    rw [takeBody_cons, hinner.1]
    rfl
  have hquiet : ReadsThroughout (·.isQuiet = true) (.savepoint (some "A") [inner]) :=
    ⟨⟨trivial, trivial⟩, trivial⟩
  have houter := (savepoint_exact (some "A") [inner] c).2 (by decide)
  have hfailure := (houter.2.2 [] (quiet_allowed hquiet [] c).2.2).2 _ (congrArg (·.1.2) hbody)
  refine ⟨hfailure, fun ⟨hcontent, hstack⟩ => ?_⟩
  obtain ⟨left, hleft, hnone⟩ := (houter.2.1 _ (congrArg (·.1.2) hbody)).mp
    ⟨hfailure, hcontent, hstack⟩
  have hentered : d.engine.store.savepoints = [c.engine.store.point "A"] := rfl
  rw [hbody, hinner.2.2, hentered] at hleft
  cases left with
  | nil => exact absurd (congrArg List.length hleft) (by decide)
  | cons q left =>
      have hq : d.engine.store.point "a" = q := (List.cons.inj hleft).1
      have hname := hnone q List.mem_cons_self
      rw [← hq] at hname
      exact absurd hname (by decide)

/-- A savepoint is exact where none in its body is given its name, neither as a name nor as a number
that is yet to come, and the statements of the body leave the transaction as it is. -/
theorem savepoint_apart (hname : '\x00' ∉ (c.savepointName name).toList)
    (hnamed : AllNamed (sameName · (c.savepointName name) = false) body)
    (hnumbers : ∀ n, (entered name c).savepoints < n →
      sameName (toString n) (c.savepointName name) = false)
    {base : List Savepoint}
    (h : Allowed (fun _ => Engine.KeepsTransaction) base (.savepoint name body) c) :
    ((take (.savepoint name body) c).1.failure? = none →
      (take (.savepoint name body) c).2.engine.store.savepoints = c.engine.store.savepoints) ∧
    (∀ f, (takeBody body (entered name c)).1.2 = .error f →
      (take (.savepoint name body) c).1.failure? = some f ∧
        (take (.savepoint name body) c).2.engine.store.content = c.engine.store.content ∧
        (take (.savepoint name body) c).2.engine.store.savepoints =
          c.engine.store.point (c.savepointName name) :: c.engine.store.savepoints) := by
  have hun : (takeBody body (entered name c)).2.engine.store.Unshadowed (c.savepointName name)
      (c.engine.store.point (c.savepointName name) :: c.engine.store.savepoints) := by
    refine body_above hname (fun base e f hkeep he => ?_) hnumbers hnamed h
    obtain ⟨inner, hs, hinner⟩ := he
    exact ⟨inner, hkeep.savepoints.trans hs, hinner⟩
  refine ⟨fun hok => ?_, fun f hf => (undone_iff hname hf).mpr hun⟩
  exact (released_iff hname hok).mpr ⟨_, sameName_refl _, hun⟩

/-- A savepoint without a name is exact where none in its body is given its number as a name: no
number is given twice. -/
theorem savepoint_numbered
    (hnamed : AllNamed (sameName · (toString (c.savepoints + 1)) = false) body)
    {base : List Savepoint}
    (h : Allowed (fun _ => Engine.KeepsTransaction) base (.savepoint none body) c) :
    ((take (.savepoint none body) c).1.failure? = none →
      (take (.savepoint none body) c).2.engine.store.savepoints = c.engine.store.savepoints) ∧
    (∀ f, (takeBody body (entered none c)).1.2 = .error f →
      (take (.savepoint none body) c).1.failure? = some f ∧
        (take (.savepoint none body) c).2.engine.store.content = c.engine.store.content ∧
        (take (.savepoint none body) c).2.engine.store.savepoints =
          c.engine.store.point (toString (c.savepoints + 1)) :: c.engine.store.savepoints) := by
  have hname := Connection.nul_notMem_savepointName c
  have hcount : (entered none c).savepoints = c.savepoints + 1 :=
    Connection.trace_savepoints _ _
  have hnumbers : ∀ n, (entered none c).savepoints < n →
      sameName (toString n) (c.savepointName none) = false := by
    intro n hn
    rw [hcount] at hn
    rw [Bool.eq_false_iff]
    exact fun hsame => Nat.ne_of_gt hn (sameName_toString hsame)
  exact savepoint_apart hname hnamed hnumbers h

end Step

end TypedSql
