import TypedSql.Proofs.Scan.Boundary

/-!
What can be said of a text without knowing what stands around it: `Reads d e n s` says that `s`,
read from code with `d` parentheses open, ends in code with `e` of them open, that no comment is
entered on the way, and that its parameters are `n` question marks without numbers. Texts that
join without forming anything new are read one after the other.
-/

namespace TypedSql

namespace Mode

/-- Whether a text is read without entering a comment. -/
def staysOut : Mode → List Char → Bool
  | m, [] => !m.inComment
  | m, c :: cs => !m.inComment && (m.step c).2.staysOut cs

/-- The characters of a text that are read in code. -/
def bare : Mode → List Char → List Char
  | _, [] => []
  | m, c :: cs => if m.region = .code then c :: (m.step c).2.bare cs else (m.step c).2.bare cs

theorem staysOut_append (m : Mode) (s t : List Char) :
    m.staysOut (s ++ t) = (m.staysOut s && (m.after s).staysOut t) := by
  induction s generalizing m with
  | nil => cases t <;> simp [staysOut, after]
  | cons c cs ih => simp [staysOut, after, ih, Bool.and_assoc]

theorem bare_append (m : Mode) (s t : List Char) :
    m.bare (s ++ t) = m.bare s ++ (m.after s).bare t := by
  induction s generalizing m with
  | nil => rfl
  | cons c cs ih =>
      simp only [List.cons_append, bare, after, ih]
      split <;> rfl

/-- No mode that reading a prefix ends in is one of a comment. -/
theorem staysOut_iff (m : Mode) (s : List Char) :
    m.staysOut s = true ↔ ∀ p, p <+: s → (m.after p).inComment = false := by
  induction s generalizing m with
  | nil => simp [staysOut, after]
  | cons c cs ih =>
      simp only [staysOut, Bool.and_eq_true, Bool.not_eq_true', ih]
      constructor
      · rintro ⟨hm, hcs⟩ p hp
        cases p with
        | nil => exact hm
        | cons d ps =>
            obtain ⟨rfl, hps⟩ := List.cons_prefix_cons.mp hp
            exact hcs ps hps
      · intro h
        exact ⟨h [] List.nil_prefix,
          fun p hp => h (c :: p) (List.cons_prefix_cons.mpr ⟨rfl, hp⟩)⟩

end Mode

/-- The parentheses that are open after characters; nothing where one is closed that was not
open. -/
def parenDepth : Nat → List Char → Option Nat
  | d, [] => some d
  | d, c :: cs =>
      if c = '(' then parenDepth (d + 1) cs
      else if c = ')' then if d = 0 then none else parenDepth (d - 1) cs
      else parenDepth d cs

theorem parenDepth_append (d : Nat) (s t : List Char) :
    parenDepth d (s ++ t) = (parenDepth d s).bind (parenDepth · t) := by
  induction s generalizing d with
  | nil => rfl
  | cons c cs ih =>
      simp only [List.cons_append, parenDepth, ih]
      split
      · rfl
      · split
        · split <;> rfl
        · rfl

/-- Parentheses around a text do not matter to those in it. -/
theorem parenDepth_add {d e : Nat} {s : List Char} (h : parenDepth d s = some e) (k : Nat) :
    parenDepth (d + k) s = some (e + k) := by
  induction s generalizing d with
  | nil => simpa [parenDepth] using h
  | cons c cs ih =>
      simp only [parenDepth] at h ⊢
      by_cases ho : c = '('
      · rw [if_pos ho] at h ⊢
        rw [Nat.add_right_comm]
        exact ih h
      rw [if_neg ho] at h ⊢
      by_cases hc : c = ')'
      · rw [if_pos hc] at h ⊢
        by_cases hd : d = 0
        · simp [hd] at h
        · rw [if_neg hd] at h
          rw [if_neg (by omega), show d + k - 1 = d - 1 + k by omega]
          exact ih h
      · rw [if_neg hc] at h ⊢
        exact ih h

def Piece.parameter? : Piece → Option Parameter
  | .char _ => none
  | .parameter p => some p

/-- The parameters of a text, from left to right. -/
def parameters (s : List Char) : List Parameter := (scan s).filterMap Piece.parameter?

/-- A text that is read from code to code, from `d` open parentheses to `e`, and whose parameters
are `n` bare question marks. -/
structure Reads (d e n : Nat) (s : List Char) : Prop where
  ends : (Mode.code.after s).region = .code
  calm : Mode.code.staysOut s = true
  marks : parameters s = List.replicate n (.positional [])
  nested : parenDepth d (Mode.code.bare s) = some e

instance (d e n : Nat) (s : List Char) : Decidable (Reads d e n s) :=
  decidable_of_iff
    ((Mode.code.after s).region = .code ∧ Mode.code.staysOut s = true ∧
      parameters s = List.replicate n (.positional []) ∧
      parenDepth d (Mode.code.bare s) = some e)
    ⟨fun ⟨h1, h2, h3, h4⟩ => ⟨h1, h2, h3, h4⟩, fun h => ⟨h.ends, h.calm, h.marks, h.nested⟩⟩

/-- Whether two texts form nothing new where they meet: nothing is pending after the first, or the
second begins with a boundary. -/
def Joins (s t : List Char) : Prop :=
  Mode.code.after s = .code ∨ ∀ c ∈ t.head?, isBoundary c = true

theorem Joins.scan_append {s t : List Char} (h : Joins s t)
    (hs : (Mode.code.after s).region = .code) : scan (s ++ t) = scan s ++ scan t := by
  cases h with
  | inl hc => exact scan_append_code hc
  | inr hb =>
      cases t with
      | nil => simp [scan, Mode.yields, Mode.after, Mode.finish]
      | cons c cs => exact scan_append_boundary hs (hb c rfl)

/-- The mode after the first of two texts that join reads the second like code does. -/
theorem Joins.step {s t : List Char} (h : Joins s t)
    (hs : (Mode.code.after s).region = .code) {c : Char} {cs : List Char} (ht : t = c :: cs) :
    ((Mode.code.after s).step c).2 = (Mode.code.step c).2 := by
  cases h with
  | inl hc => rw [hc]
  | inr hb =>
      have hk := Mode.after_markKnown (m := .code) trivial s
      rw [Mode.step_of_isBoundary hk hs (hb c (by simp [ht]))]
      rfl

/-- Two texts that end in code and join end in code. -/
theorem Joins.ends {s t : List Char} (h : Joins s t) (hs : (Mode.code.after s).region = .code)
    (ht : (Mode.code.after t).region = .code) : (Mode.code.after (s ++ t)).region = .code := by
  cases t with
  | nil => simpa using hs
  | cons c cs =>
      rw [Mode.after] at ht
      rwa [Mode.after_append, Mode.after, h.step hs rfl]

namespace Reads

variable {d e f n k : Nat} {s t : List Char}

theorem append (hs : Reads d e n s) (ht : Reads e f k t) (h : Joins s t) :
    Reads d f (n + k) (s ++ t) := by
  have hcalm := hs.calm
  have hnest := hs.nested
  cases t with
  | nil =>
      have hk : k = 0 := by simpa [parameters, scan, Mode.yields, Mode.after, Mode.finish] using ht.marks
      have hf : e = f := by simpa [Mode.bare, parenDepth] using ht.nested
      subst hk hf
      simpa using hs
  | cons c cs =>
      have hstep := h.step hs.ends (rfl : c :: cs = c :: cs)
      refine ⟨h.ends hs.ends ht.ends, ?_, ?_, ?_⟩
      · have hout : (Mode.code.after s).inComment = false := by simp [Mode.inComment, hs.ends]
        have hc := ht.calm
        rw [Mode.staysOut, Bool.and_eq_true] at hc
        rw [Mode.staysOut_append, hcalm, Mode.staysOut, hout, hstep, hc.2]
        rfl
      · rw [parameters, h.scan_append hs.ends, List.filterMap_append,
          ← List.replicate_append_replicate, ← hs.marks, ← ht.marks]
        rfl
      · have hb : (Mode.code.after s).bare (c :: cs) = Mode.code.bare (c :: cs) := by
          have hcode : Mode.code.region = .code := rfl
          simp only [Mode.bare, hs.ends, hstep, hcode]
        rw [Mode.bare_append, parenDepth_append, hnest, hb]
        exact ht.nested

/-- A text is read inside more parentheses as it is read without them. -/
theorem within (h : Reads d e n s) (k : Nat) : Reads (d + k) (e + k) n s :=
  ⟨h.ends, h.calm, h.marks, parenDepth_add h.nested k⟩

end Reads

end TypedSql
