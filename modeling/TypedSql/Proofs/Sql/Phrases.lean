import TypedSql.Proofs.Sql.Operators
import TypedSql.Proofs.Sql.Lexing

namespace TypedSql

namespace Sql

open Parse

/-! ## Where an expression stops -/

/-- No operator that comes next binds as tightly as a level. -/
def Stops (level : Nat) (r : Reader) : Prop :=
  ∀ fuel x, operators fuel level x r = .ok (x, r)

section
variable {r m s : Reader} {x : Expr} {level rank : Nat}

theorem Ends.stops (h : Ends r) (level : Nat) : Stops level r :=
  fun fuel x => operators_ends h.noOperator fuel level x

theorem Comes.stops (h : Comes r rank) (hlevel : rank < level) : Stops level r := by
  obtain ⟨op, hop, hrank⟩ := h.operator
  exact fun fuel x => operators_loose hop (hrank ▸ hlevel) fuel x

/-- Nothing binds as tightly as a sign. -/
theorem stops_sign (r : Reader) : Stops Level.sign.rank r := by
  intro fuel x
  cases hop : r.rest.head?.bind Token.infix? with
  | none => exact operators_ends hop fuel _ x
  | some op =>
      have hloose : op.level.rank < Level.sign.rank := by
        cases op with
        | binary op => cases op <;> decide
        | _ => decide
      exact operators_loose hop hloose fuel x

theorem operand_stops (h : Tight r x m) (hm : Stops level m) (fuel : Nat)
    (hfuel : 4 * r.rest.length ≤ fuel + 1) : operand (fuel + 1) level r = .ok (x, m) := by
  rw [operand_tight h hfuel, hm]

end

/-- An expression that is read where any may stand. -/
structure Whole (r : Reader) (x : Expr) (s : Reader) : Prop where
  shorter : s.rest.length < r.rest.length
  opening : ∀ t ∈ r.rest.head?, t.isOpening = true
  reads : ∀ fuel, 4 * r.rest.length ≤ fuel → operand fuel 0 r = .ok (x, s)

theorem Path.length_le {r s : Reader} {ls : List Link} (h : Path r ls s) :
    s.rest.length ≤ r.rest.length := by
  induction h with
  | nil => exact Nat.le_refl _
  | cons hl _ ih => exact Nat.le_trans ih (Nat.le_of_lt hl.shorter)

theorem isOpening_not {t : Token} (h : t.isWord "not" = true) : t.isOpening = true := by
  simp only [Token.isWord, Bool.and_eq_true, beq_iff_eq] at h
  obtain ⟨hl, ht⟩ := h
  simp [Token.isOpening, Token.isWord, Token.isSymbol, hl, ht]

theorem Begins.opening {r s : Reader} {p : Primary} (h : Begins r p s) :
    ∀ t ∈ r.rest.head?, t.isOpening = true := by
  cases h with
  | plain h => exact h.opening
  | not hnot _ =>
      intro t ht
      cases ht
      exact isOpening_not hnot

theorem Whole.of_path {r m s : Reader} {p : Primary} {ls : List Link} (hp : Begins r p m)
    (hpath : Path m ls s) (hs : Ends s) : Whole r (p.reading ls) s where
  shorter := Nat.lt_of_le_of_lt hpath.length_le hp.shorter
  opening := hp.opening
  reads _ hfuel := operand_reading hp hpath hs hfuel

/-- The expression that a text is, if it is one and nothing more. -/
def expressionIn (sql : String) : Option Expr :=
  match expression ⟨solid sql.toList, {}⟩ with
  | .ok (x, ⟨[], _⟩) => some x
  | _ => none

/-- Expressions with commas between them. -/
inductive Items : Reader → List Expr → Reader → Prop
  | last {r x s} : Whole r x s → (∀ t ∈ s.rest.head?, t.isSymbol "," = false) → Items r [x] s
  | cons {r x ts params xs s} : Whole r x ⟨symbolToken "," :: ts, params⟩ →
      Items ⟨ts, params⟩ xs s → Items r (x :: xs) s

theorem Items.shorter {r s : Reader} {xs : List Expr} (h : Items r xs s) :
    s.rest.length < r.rest.length := by
  induction h with
  | last h _ => exact h.shorter
  | cons h _ ih =>
      have hshorter := h.shorter
      simp only [List.length_cons] at hshorter ih
      omega

theorem Items.opening {r s : Reader} {xs : List Expr} (h : Items r xs s) :
    ∀ t ∈ r.rest.head?, t.isOpening = true := by
  cases h with
  | last h _ => exact h.opening
  | cons h _ => exact h.opening

theorem list_items {r s : Reader} {xs : List Expr} (h : Items r xs s) {fuel : Nat}
    (hfuel : 4 * r.rest.length < fuel) : list fuel r = .ok (xs, s) := by
  induction h generalizing fuel with
  | last hx hcomma =>
      obtain ⟨fuel, rfl⟩ : ∃ n, fuel = n + 1 := ⟨fuel - 1, by omega⟩
      have hnone : takeSymbol "," _ = .ok (false, _) := takeIf_neg hcomma
      rw [list, bind_ok (hx.reads fuel (by omega)), bind_ok hnone]
      rfl
  | cons hx _ ih =>
      have hshorter := hx.shorter
      simp only [List.length_cons] at hshorter
      obtain ⟨fuel, rfl⟩ : ∃ n, fuel = n + 1 := ⟨fuel - 1, by omega⟩
      have hsome (ts params) : takeSymbol "," ⟨symbolToken "," :: ts, params⟩ =
          .ok (true, ⟨ts, params⟩) := takeIf_pos rfl
      rw [list, bind_ok (hx.reads fuel (by omega)), bind_ok (hsome _ _), if_pos rfl,
        bind_ok (ih (by dsimp only; omega))]
      rfl

/-! ## What is read by itself -/

def markToken : Token := ⟨.positional [], ['?'], [], 0⟩

def nameToken (name : String) : Token := ⟨.quotedName name.toList, quoted '"' name.toList, [], 0⟩

def textToken (text : String) : Token := ⟨.string text.toList, quoted '\'' text.toList, [], 0⟩

/-- The parameters after a number of further marks. -/
def Parameters.skip (params : Parameters) (n : Nat) : Parameters :=
  { params with count := params.count + n }

theorem Parameters.skip_skip (params : Parameters) (n m : Nat) :
    (params.skip n).skip m = params.skip (n + m) := by
  simp [skip, Nat.add_assoc]

section
variable (ts : List Token) (params : Parameters)

theorem ends_of_token {t : Token} (hop : t.infix? = none) (hescape : t.isWord "escape" = false) :
    Ends ⟨t :: ts, params⟩ where
  noOperator := hop
  noEscape := fun u hu => by
    cases hu
    exact hescape

theorem ends_close : Ends ⟨symbolToken ")" :: ts, params⟩ := ends_of_token ts params rfl rfl

theorem ends_comma : Ends ⟨symbolToken "," :: ts, params⟩ := ends_of_token ts params rfl rfl

theorem ends_as : Ends ⟨wordToken "AS" :: ts, params⟩ := ends_of_token ts params rfl rfl

end

/-- A minus sign before the expression stays an operator, as it does not before a number. -/
def StaysNegated (x : Expr) : Prop := negated x = .unary .negate x

/-- Whatever a link makes of its operands, a minus sign before it stays an operator. -/
def Link.StaysNegated : Link → Prop
  | .operator _ f _ => ∀ x y, Sql.StaysNegated (f x y)
  | .predicate _ f => ∀ x, Sql.StaysNegated (f x)

theorem staysNegated_reading {p : Primary} {ls : List Link} (hp : StaysNegated p.value)
    (hls : ∀ l ∈ ls, l.StaysNegated) : StaysNegated (p.reading ls) := by
  have hclimb {level x} {ms : List Link} (hx : StaysNegated x) (hms : ms <:+ ls) :
      StaysNegated (climb level x ms).1 := by
    refine (climbs level x ms).preserves StaysNegated ?_ ?_ hx
    · intro rank f q hmem y z _
      exact hls _ (hms.subset hmem) y z
    · intro rank f hmem y _
      exact hls _ (hms.subset hmem) y
  obtain ⟨negated, v⟩ := p
  cases negated with
  | false =>
      rw [Primary.reading, Primary.climb_plain]
      exact hclimb hp (List.suffix_refl ls)
  | true =>
      rw [Primary.reading, Primary.climb_not]
      exact hclimb rfl (climbs _ _ _).suffix

section
variable {ts : List Token} {params : Parameters} {s : Reader} {x : Expr} {xs : List Expr}

/-- What a reader does when it has fuel for a token. -/
theorem Tight.intro {t : Token} (hnot : t.isWord "not" = false) (hopening : t.isOpening = true)
    (hshorter : s.rest.length ≤ ts.length)
    (h : ∀ fuel, 4 * ts.length + 2 ≤ fuel → prefixed (fuel + 1) ⟨t :: ts, params⟩ = .ok (x, s)) :
    Tight ⟨t :: ts, params⟩ x s where
  shorter := Nat.lt_succ_of_le hshorter
  noNot := fun u hu => by
    cases hu
    exact hnot
  opening := fun u hu => by
    cases hu
    exact hopening
  reads := fun fuel hfuel => by
    simp only [List.length_cons] at hfuel
    obtain ⟨fuel, rfl⟩ : ∃ n, fuel = n + 1 := ⟨fuel - 1, by omega⟩
    exact h fuel (by omega)

theorem tight_mark (h : params.count < maxParameter) :
    Tight ⟨markToken :: ts, params⟩ (.parameter (params.count + 1)) ⟨ts, params.skip 1⟩ := by
  refine .intro rfl rfl (Nat.le_refl _) fun fuel _ => ?_
  have hadd : params.add markToken = .ok (params.count + 1, params.skip 1) := if_pos h
  have hparameter : parameter markToken ⟨markToken :: ts, params⟩ =
      .ok (params.count + 1, ⟨ts, params.skip 1⟩) := by
    rw [parameter, hadd]
    rfl
  show (parameter markToken >>= fun n => pure (.parameter n) : Parse Expr) _ = _
  rw [bind_ok hparameter]
  rfl

theorem tight_text (text : String) :
    Tight ⟨textToken text :: ts, params⟩ (.literal (.ofText text)) ⟨ts, params⟩ := by
  refine .intro rfl rfl (Nat.le_refl _) fun fuel _ => ?_
  have htext : String.ofList text.toList = text := String.ofList_toList
  conv => rhs; rw [← htext]
  rfl

theorem tight_null : Tight ⟨wordToken "NULL" :: ts, params⟩ (.literal .null) ⟨ts, params⟩ :=
  .intro rfl rfl (Nat.le_refl _) fun _ _ => rfl

/-- An expression in parentheses. -/
theorem tight_parentheses {rest : List Token} {params' : Parameters}
    (h : Whole ⟨ts, params⟩ x ⟨symbolToken ")" :: rest, params'⟩) :
    Tight ⟨symbolToken "(" :: ts, params⟩ x ⟨rest, params'⟩ := by
  have hshorter := h.shorter
  simp only [List.length_cons] at hshorter
  refine .intro rfl rfl (by dsimp only; omega) fun fuel hfuel => ?_
  have hclose : symbol ")" ⟨symbolToken ")" :: rest, params'⟩ = .ok ((), ⟨rest, params'⟩) := rfl
  show (operand fuel 0 >>= fun x => symbol ")" >>= fun _ => pure x : Parse Expr) ⟨ts, params⟩ = _
  rw [bind_ok (h.reads fuel (by dsimp only; omega)), bind_ok hclose]
  rfl

/-- A sign before an expression that is read by itself. -/
theorem tight_complement (h : Tight ⟨ts, params⟩ x s) :
    Tight ⟨symbolToken "~" :: ts, params⟩ (.unary .complement x) s := by
  refine .intro rfl rfl (Nat.le_of_lt h.shorter) fun fuel hfuel => ?_
  obtain ⟨fuel, rfl⟩ : ∃ n, fuel = n + 1 := ⟨fuel - 1, by omega⟩
  have hx := operand_stops h (stops_sign s) fuel (by dsimp only; omega)
  show (operand (fuel + 1) Level.sign.rank >>= fun x => pure (.unary .complement x) : Parse Expr)
    ⟨ts, params⟩ = _
  rw [bind_ok hx]
  rfl

/-- A minus sign in parentheses is an operator, except before a number. -/
theorem tight_negate (h : Tight ⟨symbolToken "(" :: ts, params⟩ x s) (hx : StaysNegated x) :
    Tight ⟨symbolToken "-" :: symbolToken "(" :: ts, params⟩ (.unary .negate x) s := by
  refine .intro rfl rfl (Nat.le_of_lt h.shorter) fun fuel hfuel => ?_
  obtain ⟨fuel, rfl⟩ : ∃ n, fuel = n + 1 := ⟨fuel - 1, by omega⟩
  have hsign := operand_stops h (stops_sign s) fuel (by dsimp only; omega)
  show (operand (fuel + 1) Level.sign.rank >>= fun x => pure (negated x) : Parse Expr)
    ⟨symbolToken "(" :: ts, params⟩ = _
  rw [bind_ok hsign, hx]
  rfl

end

/-! ## Names and calls -/

/-- A token that is a name wherever an expression begins with it. -/
structure Names (t : Token) (name : String) : Prop where
  noNot : t.isWord "not" = false
  noCast : t.isWord "cast" = false
  opening : t.isOpening = true
  reads : ∀ fuel ts params,
    prefixed (fuel + 1) ⟨t :: ts, params⟩ = named fuel t name ⟨ts, params⟩
  offset : t.offset = 0

section
variable {t : Token} {name : String} {ts rest : List Token} {params params' : Parameters} {x : Expr}
  {xs : List Expr}

theorem names_quoted (name : String) : Names (nameToken name) name where
  noNot := rfl
  noCast := rfl
  opening := rfl
  reads fuel ts params := by
    show named fuel (nameToken name) (String.ofList name.toList) ⟨ts, params⟩ = _
    rw [String.ofList_toList]
  offset := rfl

/-- A column is a name that nothing makes more of. -/
theorem tight_column (name : String)
    (hts : ∀ u ∈ ts.head?, u.isSymbol "(" = false ∧ u.isSymbol "." = false) :
    Tight ⟨nameToken name :: ts, params⟩ (.name none name true 0) ⟨ts, params⟩ := by
  refine .intro rfl rfl (Nat.le_refl _) fun fuel hfuel => ?_
  obtain ⟨fuel, rfl⟩ : ∃ n, fuel = n + 1 := ⟨fuel - 1, by omega⟩
  have hcall : takeSymbol "(" ⟨ts, params⟩ = .ok (false, ⟨ts, params⟩) :=
    takeIf_neg fun u hu => (hts u hu).1
  have hdot : takeSymbol "." ⟨ts, params⟩ = .ok (false, ⟨ts, params⟩) :=
    takeIf_neg fun u hu => (hts u hu).2
  rw [(names_quoted name).reads, named, bind_ok hcall, if_neg Bool.false_ne_true, bind_ok hdot]
  rfl

/-- A column with the name of its table. -/
theorem tight_qualified (table name : String) :
    Tight ⟨nameToken table :: symbolToken "." :: nameToken name :: ts, params⟩
      (.name (some table) name false 0) ⟨ts, params⟩ := by
  refine .intro rfl rfl (by simp only [List.length_cons]; omega) fun fuel hfuel => ?_
  simp only [List.length_cons] at hfuel
  obtain ⟨fuel, rfl⟩ : ∃ n, fuel = n + 1 := ⟨fuel - 1, by omega⟩
  rw [(names_quoted table).reads]
  have hname : String.ofList name.toList = name := String.ofList_toList
  conv => rhs; rw [← hname]
  rfl

/-- A call with arguments, after a `DISTINCT` or without one. -/
theorem tight_arguments {distinct : Bool} {us : List Token} (ht : Names t name)
    (hstar : ∀ u ∈ ts.head?, u.isSymbol "*" = false)
    (hclose : ∀ u ∈ ts.head?, u.isSymbol ")" = false)
    (hdistinct : takeWord "distinct" ⟨ts, params⟩ = .ok (distinct, ⟨us, params⟩))
    (hlength : us.length ≤ ts.length)
    (h : Items ⟨us, params⟩ xs ⟨symbolToken ")" :: rest, params'⟩) :
    Tight ⟨t :: symbolToken "(" :: ts, params⟩ (.call name distinct xs 0) ⟨rest, params'⟩ := by
  have hshorter := h.shorter
  simp only [List.length_cons] at hshorter
  refine .intro ht.noNot ht.opening (by simp only [List.length_cons]; omega) fun fuel hfuel => ?_
  simp only [List.length_cons] at hfuel
  obtain ⟨fuel, rfl⟩ : ∃ n, fuel = n + 1 := ⟨fuel - 1, by omega⟩
  have hopen : takeSymbol "(" ⟨symbolToken "(" :: ts, params⟩ = .ok (true, ⟨ts, params⟩) :=
    takeIf_pos rfl
  have hnoStar : takeSymbol "*" ⟨ts, params⟩ = .ok (false, ⟨ts, params⟩) := takeIf_neg hstar
  have hnoClose : takeSymbol ")" ⟨ts, params⟩ = .ok (false, ⟨ts, params⟩) := takeIf_neg hclose
  have hend : symbol ")" ⟨symbolToken ")" :: rest, params'⟩ = .ok ((), ⟨rest, params'⟩) := rfl
  rw [ht.reads, named, bind_ok hopen, if_pos rfl, if_neg (by simp [ht.noCast]), bind_ok hnoStar,
    if_neg Bool.false_ne_true, bind_ok hnoClose, if_neg Bool.false_ne_true, bind_ok hdistinct,
    bind_ok (list_items h (by dsimp only; omega)), bind_ok hend, ht.offset]
  rfl

theorem tight_call (ht : Names t name)
    (h : Items ⟨ts, params⟩ xs ⟨symbolToken ")" :: rest, params'⟩) :
    Tight ⟨t :: symbolToken "(" :: ts, params⟩ (.call name false xs 0) ⟨rest, params'⟩ := by
  have hfirst : ∀ u ∈ ts.head?, u.isWord "distinct" = false ∧ u.isSymbol "*" = false ∧
      u.isSymbol ")" = false := by
    intro u hu
    have hopening := h.opening u hu
    simpa [Token.isOpening, and_assoc] using hopening
  have hdistinct : takeWord "distinct" ⟨ts, params⟩ = .ok (false, ⟨ts, params⟩) :=
    takeIf_neg fun u hu => (hfirst u hu).1
  apply tight_arguments ht _ _ hdistinct (Nat.le_refl _) h
  · intro u hu
    exact (hfirst u hu).2.1
  · intro u hu
    exact (hfirst u hu).2.2

theorem tight_call_distinct (ht : Names t name)
    (h : Items ⟨ts, params⟩ xs ⟨symbolToken ")" :: rest, params'⟩) :
    Tight ⟨t :: symbolToken "(" :: wordToken "DISTINCT" :: ts, params⟩ (.call name true xs 0)
      ⟨rest, params'⟩ := by
  have hdistinct : takeWord "distinct" ⟨wordToken "DISTINCT" :: ts, params⟩ =
      .ok (true, ⟨ts, params⟩) := takeIf_pos rfl
  apply tight_arguments ht _ _ hdistinct (Nat.le_succ _) h
  · intro u hu
    cases hu
    rfl
  · intro u hu
    cases hu
    rfl

/-- A call without arguments. -/
theorem tight_call_nil (ht : Names t name) :
    Tight ⟨t :: symbolToken "(" :: symbolToken ")" :: ts, params⟩ (.call name false [] 0)
      ⟨ts, params⟩ := by
  refine .intro ht.noNot ht.opening (by simp only [List.length_cons]; omega) fun fuel hfuel => ?_
  simp only [List.length_cons] at hfuel
  obtain ⟨fuel, rfl⟩ : ∃ n, fuel = n + 1 := ⟨fuel - 1, by omega⟩
  have hopen (ts : List Token) :
      takeSymbol "(" ⟨symbolToken "(" :: ts, params⟩ = .ok (true, ⟨ts, params⟩) := takeIf_pos rfl
  rw [ht.reads, named, bind_ok (hopen _), if_pos rfl, if_neg (by simp [ht.noCast]), ← ht.offset]
  rfl

/-- A call of all rows. -/
theorem tight_callStar (ht : Names t name) :
    Tight ⟨t :: symbolToken "(" :: symbolToken "*" :: symbolToken ")" :: ts, params⟩
      (.callStar name 0) ⟨ts, params⟩ := by
  refine .intro ht.noNot ht.opening (by simp only [List.length_cons]; omega) fun fuel hfuel => ?_
  simp only [List.length_cons] at hfuel
  obtain ⟨fuel, rfl⟩ : ∃ n, fuel = n + 1 := ⟨fuel - 1, by omega⟩
  have hopen (ts : List Token) :
      takeSymbol "(" ⟨symbolToken "(" :: ts, params⟩ = .ok (true, ⟨ts, params⟩) := takeIf_pos rfl
  rw [ht.reads, named, bind_ok (hopen _), if_pos rfl, if_neg (by simp [ht.noCast]), ← ht.offset]
  rfl

/-- A cast to a type. -/
theorem tight_cast {type : Token} {typeName : String} (htype : type.name? = some typeName)
    (h : Whole ⟨ts, params⟩ x ⟨wordToken "AS" :: type :: symbolToken ")" :: rest, params'⟩) :
    Tight ⟨wordToken "CAST" :: symbolToken "(" :: ts, params⟩ (.cast x typeName)
      ⟨rest, params'⟩ := by
  have hshorter := h.shorter
  simp only [List.length_cons] at hshorter
  refine .intro rfl rfl (by simp only [List.length_cons]; omega) fun fuel hfuel => ?_
  simp only [List.length_cons] at hfuel
  obtain ⟨fuel, rfl⟩ : ∃ n, fuel = n + 1 := ⟨fuel - 1, by omega⟩
  have has (ts : List Token) :
      word "as" ⟨wordToken "AS" :: ts, params'⟩ = .ok ((), ⟨ts, params'⟩) := rfl
  have hname (ts : List Token) :
      Parse.name ⟨type :: ts, params'⟩ = .ok (typeName, ⟨ts, params'⟩) := by
    rw [Parse.name, bind_ok (peek_cons _ _ _)]
    simp only [Option.bind_some, htype]
    rw [bind_ok (skip_cons _ _ _)]
    rfl
  have hend : symbol ")" ⟨symbolToken ")" :: rest, params'⟩ = .ok ((), ⟨rest, params'⟩) := rfl
  show (operand fuel 0 >>= fun x => word "as" >>= fun _ => Parse.name >>= fun type =>
    symbol ")" >>= fun _ => pure (.cast x type) : Parse Expr) ⟨ts, params⟩ = _
  rw [bind_ok (h.reads fuel (by dsimp only; omega)), bind_ok (has _), bind_ok (hname _),
    bind_ok hend]
  rfl

end

/-! ## Predicates with values of their own -/

def predicateWords (negated : Bool) (word : String) : List Token :=
  if negated then [wordToken "NOT", wordToken word] else [wordToken word]

section
variable {ts : List Token} {params : Parameters} {s : Reader}

section
variable {fuel level : Nat} {x : Expr} (negated : Bool)

theorem comes_predicate {word : String} (h : word = "BETWEEN" ∨ word = "IN") :
    Comes ⟨predicateWords negated word ++ ts, params⟩ Level.equality.rank := by
  cases negated with
  | true => exact comes_operator .not rfl rfl
  | false =>
      rcases h with rfl | rfl
      · exact comes_operator .between rfl rfl
      · exact comes_operator .inList rfl rfl

theorem operators_between (hlevel : level ≤ Level.equality.rank) :
    operators (fuel + 1) level x ⟨predicateWords negated "BETWEEN" ++ ts, params⟩ =
      (between fuel negated x >>= operators fuel level : Parse Expr) ⟨ts, params⟩ := by
  cases negated with
  | false =>
      have hop : (wordToken "BETWEEN").infix? = some .between := rfl
      have hloose : ¬Infix.between.level.rank < level := Nat.not_lt.mpr hlevel
      show operators (fuel + 1) level x ⟨wordToken "BETWEEN" :: ts, params⟩ = _
      rw [operators, bind_ok (peek_cons _ _ _)]
      simp only [Option.bind_some, hop]
      rw [if_neg hloose, bind_ok (skip_cons _ _ _)]
  | true =>
      have hop : (wordToken "NOT").infix? = some .not := rfl
      have hloose : ¬Infix.not.level.rank < level := Nat.not_lt.mpr hlevel
      have hnull : takeWord "null" ⟨wordToken "BETWEEN" :: ts, params⟩ =
          .ok (false, ⟨wordToken "BETWEEN" :: ts, params⟩) := rfl
      have htake : takeWord "between" ⟨wordToken "BETWEEN" :: ts, params⟩ =
          .ok (true, ⟨ts, params⟩) := rfl
      show operators (fuel + 1) level x ⟨wordToken "NOT" :: wordToken "BETWEEN" :: ts, params⟩ = _
      rw [operators, bind_ok (peek_cons _ _ _)]
      simp only [Option.bind_some, hop]
      rw [if_neg hloose, bind_ok (skip_cons _ _ _), bind_ok hnull, if_neg Bool.false_ne_true,
        bind_ok htake, if_pos rfl]

theorem operators_in (hlevel : level ≤ Level.equality.rank) :
    operators (fuel + 1) level x ⟨predicateWords negated "IN" ++ ts, params⟩ =
      (items fuel >>= fun xs => operators fuel level (.inList negated x xs) : Parse Expr)
        ⟨ts, params⟩ := by
  cases negated with
  | false =>
      have hop : (wordToken "IN").infix? = some .inList := rfl
      have hloose : ¬Infix.inList.level.rank < level := Nat.not_lt.mpr hlevel
      show operators (fuel + 1) level x ⟨wordToken "IN" :: ts, params⟩ = _
      rw [operators, bind_ok (peek_cons _ _ _)]
      simp only [Option.bind_some, hop]
      rw [if_neg hloose, bind_ok (skip_cons _ _ _)]
      rfl
  | true =>
      have hop : (wordToken "NOT").infix? = some .not := rfl
      have hloose : ¬Infix.not.level.rank < level := Nat.not_lt.mpr hlevel
      have hnull : takeWord "null" ⟨wordToken "IN" :: ts, params⟩ =
          .ok (false, ⟨wordToken "IN" :: ts, params⟩) := rfl
      have hbetween : takeWord "between" ⟨wordToken "IN" :: ts, params⟩ =
          .ok (false, ⟨wordToken "IN" :: ts, params⟩) := rfl
      have htake : takeWord "in" ⟨wordToken "IN" :: ts, params⟩ = .ok (true, ⟨ts, params⟩) := rfl
      show operators (fuel + 1) level x ⟨wordToken "NOT" :: wordToken "IN" :: ts, params⟩ = _
      rw [operators, bind_ok (peek_cons _ _ _)]
      simp only [Option.bind_some, hop]
      rw [if_neg hloose, bind_ok (skip_cons _ _ _), bind_ok hnull, if_neg Bool.false_ne_true,
        bind_ok hbetween, if_neg Bool.false_ne_true, bind_ok htake, if_pos rfl]
      rfl

end

theorem length_lt_predicateWords (negated : Bool) (word : String) (ts : List Token) :
    ts.length < (predicateWords negated word ++ ts).length := by
  have hadded : (predicateWords negated word ++ ts).length =
      (predicateWords negated word).length + ts.length := List.length_append
  have hwords : 0 < (predicateWords negated word).length := by
    cases negated <;> exact Nat.zero_lt_succ _
  omega

/-- A mark that nothing after it binds tightly enough to take. -/
theorem operand_mark {level : Nat} (hcount : params.count < maxParameter)
    (hstops : Stops level ⟨ts, params.skip 1⟩) (fuel : Nat) (hfuel : 4 * ts.length + 3 ≤ fuel) :
    operand (fuel + 1) level ⟨markToken :: ts, params⟩ =
      .ok (.parameter (params.count + 1), ⟨ts, params.skip 1⟩) :=
  operand_stops (tight_mark hcount) hstops fuel (by simp only [List.length_cons]; omega)

theorem between_marks (negated : Bool) (x : Expr) (hcount : params.count + 2 ≤ maxParameter)
    (hs : Ends ⟨ts, params.skip 2⟩) {fuel : Nat} (hfuel : 4 * ts.length + 12 ≤ fuel) :
    between (fuel + 1) negated x ⟨markToken :: wordToken "AND" :: markToken :: ts, params⟩ =
      .ok (.between negated x (.parameter (params.count + 1)) (.parameter (params.count + 2)),
        ⟨ts, params.skip 2⟩) := by
  obtain ⟨fuel, rfl⟩ : ∃ n, fuel = n + 1 := ⟨fuel - 1, by omega⟩
  have hand : Comes ⟨wordToken "AND" :: markToken :: ts, params.skip 1⟩ Level.and.rank :=
    comes_operator (.binary .and) rfl rfl
  have hfirst : params.count < maxParameter := by omega
  have hsecond : (params.skip 1).count < maxParameter := by
    simp only [Parameters.skip]
    omega
  -- the low end is read above `AND`, so the `AND` between the ends is left
  have hlow := operand_mark hfirst (hand.stops (by decide : _ < Level.not.rank)) fuel
    (by simp only [List.length_cons]; omega)
  have hword : word "and" ⟨wordToken "AND" :: markToken :: ts, params.skip 1⟩ =
      .ok ((), ⟨markToken :: ts, params.skip 1⟩) := rfl
  have hhigh := operand_mark hsecond (hs.stops (Level.equality.rank + 1)) fuel (by omega)
  rw [between, bind_ok hlow, bind_ok hword, bind_ok hhigh]
  rfl

theorem follows_between (negated : Bool) (hcount : params.count + 2 ≤ maxParameter)
    (hs : Ends ⟨ts, params.skip 2⟩) :
    Follows ⟨predicateWords negated "BETWEEN" ++
        markToken :: wordToken "AND" :: markToken :: ts, params⟩
      (.predicate Level.equality.rank fun x =>
        .between negated x (.parameter (params.count + 1)) (.parameter (params.count + 2)))
      ⟨ts, params.skip 2⟩ := by
  have hshorter := length_lt_predicateWords negated "BETWEEN"
    (markToken :: wordToken "AND" :: markToken :: ts)
  simp only [List.length_cons] at hshorter
  refine .predicate (comes_predicate negated (.inl rfl)) (by dsimp only; omega) ?_
  intro fuel level x hlevel hfuel
  dsimp only at hfuel
  obtain ⟨fuel, rfl⟩ : ∃ n, fuel = n + 1 := ⟨fuel - 1, by omega⟩
  rw [operators_between negated hlevel, bind_ok (between_marks negated x hcount hs (by omega))]

/-- `IN` before a list of marks. -/
theorem follows_in (negated : Bool) {xs : List Expr} (hshorter : s.rest.length < ts.length)
    (h : ∀ fuel, 4 * ts.length < fuel → items fuel ⟨ts, params⟩ = .ok (xs, s)) :
    Follows ⟨predicateWords negated "IN" ++ ts, params⟩
      (.predicate Level.equality.rank fun x => .inList negated x xs) s := by
  have hwords := length_lt_predicateWords negated "IN" ts
  refine .predicate (comes_predicate negated (.inr rfl)) (by dsimp only; omega) ?_
  intro fuel level x hlevel hfuel
  dsimp only at hfuel
  rw [operators_in negated hlevel, bind_ok (h fuel (by omega))]

theorem items_nil (fuel : Nat) :
    items (fuel + 1) ⟨symbolToken "(" :: symbolToken ")" :: ts, params⟩ = .ok ([], ⟨ts, params⟩) :=
  rfl

theorem items_cons {xs : List Expr} {params' : Parameters} {rest : List Token}
    (h : Items ⟨ts, params⟩ xs ⟨symbolToken ")" :: rest, params'⟩) {fuel : Nat}
    (hfuel : 4 * ts.length < fuel) :
    items (fuel + 1) ⟨symbolToken "(" :: ts, params⟩ = .ok (xs, ⟨rest, params'⟩) := by
  have hopen : symbol "(" ⟨symbolToken "(" :: ts, params⟩ = .ok ((), ⟨ts, params⟩) := rfl
  have hclose : takeSymbol ")" ⟨ts, params⟩ = .ok (false, ⟨ts, params⟩) := takeIf_neg fun u hu => by
    have hopening := h.opening u hu
    simp only [Token.isOpening, Bool.and_eq_true, Bool.not_eq_true'] at hopening
    exact hopening.2
  have hend : symbol ")" ⟨symbolToken ")" :: rest, params'⟩ = .ok ((), ⟨rest, params'⟩) := rfl
  rw [items, bind_ok hopen, bind_ok hclose, if_neg Bool.false_ne_true, bind_ok (list_items h hfuel),
    bind_ok hend]
  rfl

/-- `LIKE` with an escape character. -/
theorem follows_likeEscape (hcount : params.count + 2 ≤ maxParameter)
    (hs : Ends ⟨ts, params.skip 2⟩) :
    Follows ⟨wordToken "LIKE" :: markToken :: wordToken "ESCAPE" :: markToken :: ts, params⟩
      (.predicate Level.equality.rank fun x =>
        .likeEscape x (.parameter (params.count + 1)) (.parameter (params.count + 2)))
      ⟨ts, params.skip 2⟩ := by
  have hop : (wordToken "LIKE").infix? = some (.binary .like) := rfl
  have hcomes : Comes ⟨wordToken "LIKE" :: markToken :: wordToken "ESCAPE" :: markToken :: ts,
      params⟩ Level.equality.rank := comes_operator _ hop rfl
  refine .predicate hcomes (by simp only [List.length_cons]; omega) ?_
  intro fuel level x hlevel hfuel
  simp only [List.length_cons] at hfuel
  obtain ⟨fuel, rfl⟩ : ∃ n, fuel = n + 1 := ⟨fuel - 1, by omega⟩
  have hloose : ¬(Infix.binary .like).level.rank < level := Nat.not_lt.mpr hlevel
  have hstops : Stops (Level.equality.rank + 1)
      ⟨wordToken "ESCAPE" :: markToken :: ts, params.skip 1⟩ :=
    fun fuel x => operators_ends rfl fuel _ x
  have hfirst : params.count < maxParameter := by omega
  have hsecond : (params.skip 1).count < maxParameter := by
    simp only [Parameters.skip]
    omega
  have hpattern := operand_mark hfirst hstops fuel (by simp only [List.length_cons]; omega)
  have hword : takeWord "escape" ⟨wordToken "ESCAPE" :: markToken :: ts, params.skip 1⟩ =
      .ok (true, ⟨markToken :: ts, params.skip 1⟩) := rfl
  have hescape := operand_mark hsecond (hs.stops (Level.equality.rank + 1)) fuel (by omega)
  rw [operators, bind_ok (peek_cons _ _ _)]
  simp only [Option.bind_some, hop]
  rw [if_neg hloose, bind_ok (skip_cons _ _ _), bind_ok hpattern, bind_ok hword, if_pos rfl,
    bind_ok hescape]
  rfl

/-- `COLLATE` with the name of a collating sequence. -/
theorem follows_collate (collation : String) :
    Follows ⟨wordToken "COLLATE" :: nameToken collation :: ts, params⟩
      (.predicate Level.collate.rank fun x => .collate x collation) ⟨ts, params⟩ := by
  have hop : (wordToken "COLLATE").infix? = some .collate := rfl
  have hcomes : Comes ⟨wordToken "COLLATE" :: nameToken collation :: ts, params⟩
      Level.collate.rank := comes_operator _ hop rfl
  refine .predicate hcomes (by simp only [List.length_cons]; omega) ?_
  intro fuel level x hlevel _
  have hloose : ¬Infix.collate.level.rank < level := Nat.not_lt.mpr hlevel
  have hname : nameOrText ⟨nameToken collation :: ts, params⟩ = .ok (collation, ⟨ts, params⟩) := by
    show Except.ok (String.ofList collation.toList, (⟨ts, params⟩ : Reader)) = _
    rw [String.ofList_toList]
  rw [operators, bind_ok (peek_cons _ _ _)]
  simp only [Option.bind_some, hop]
  rw [if_neg hloose, bind_ok (skip_cons _ _ _), bind_ok hname]
  rfl

end

end Sql

end TypedSql
