import Mathlib.Data.List.Chain
import TypedSql.Proofs.Scan.Closed
import TypedSql.Proofs.Sql.Lexing

/-!
Literals that cannot be confused. The first character of a literal shows its storage class, and the
literal ends where the text around it goes on with a character that is neither a digit nor a mark.
So where every mark of a text has a gap after it, the text that the cells make of it tells which
cells they are. Reals are left out: some of their literals are those of other cells.
-/

namespace TypedSql

def Cell.isReal : Cell → Bool
  | some (.real _) => true
  | _ => false

def Cell.storageClass? (cell : Cell) : Option StorageClass := Option.map Stored.storageClass cell

/-- The storage class of what a literal that begins with a character denotes, reals apart. -/
def classOf (c : Char) : Option StorageClass :=
  if c = 'N' then none
  else if c = '\'' then some .text
  else if c = 'X' then some .blob
  else some .integer

/-- Text that a literal before it does not go on in. -/
def EndsLiteral (rest : List Char) : Prop := ∀ c ∈ rest.head?, c.isDigit = false ∧ c ≠ '\''

/-! ## Literals -/

/-- Characters of a kind end where the first of another kind stands. -/
theorem append_inj_of_run {p : Char → Bool} {s t rest rest' : List Char}
    (hs : ∀ c ∈ s, p c = true) (ht : ∀ c ∈ t, p c = true) (hrest : ∀ c ∈ rest.head?, p c = false)
    (hrest' : ∀ c ∈ rest'.head?, p c = false) (h : s ++ rest = t ++ rest') :
    s = t ∧ rest = rest' := by
  have run {s rest : List Char} (hs : ∀ c ∈ s, p c = true) (hrest : ∀ c ∈ rest.head?, p c = false) :
      (s ++ rest).takeWhile p = s := by
    have hnone : rest.takeWhile p = [] := by
      cases rest with
      | nil => rfl
      | cons c cs => simp [hrest c rfl]
    rw [List.takeWhile_append_of_pos hs, hnone, List.append_nil]
  have hst := congrArg (List.takeWhile p) h
  rw [run hs hrest, run ht hrest'] at hst
  subst hst
  exact ⟨rfl, List.append_cancel_left h⟩

theorem toDigits_injective {m n : Nat} (h : Nat.toDigits 10 m = Nat.toDigits 10 n) : m = n := by
  have hm := Nat.ofDigitChars_ten_toDigits (n := m)
  rw [h, Nat.ofDigitChars_ten_toDigits] at hm
  exact hm.symm

theorem dash_cons_ne_toDigits_append (n : Nat) (s t : List Char) :
    '-' :: s ≠ Nat.toDigits 10 n ++ t := by
  intro h
  cases hn : Nat.toDigits 10 n with
  | nil => exact Nat.toDigits_ne_nil hn
  | cons c cs =>
      have hc : c.isDigit = true :=
        Nat.isDigit_of_mem_toDigits (b := 10) (n := n) (by decide) (by decide) (by simp [hn])
      rw [hn, List.cons_append] at h
      rw [← (List.cons.inj h).1] at hc
      exact absurd hc (by decide)

theorem toString_int_append_inj {m n : Int} {rest rest' : List Char} (hrest : EndsLiteral rest)
    (hrest' : EndsLiteral rest')
    (h : (toString m).toList ++ rest = (toString n).toList ++ rest') : m = n ∧ rest = rest' := by
  have digits (h : Nat.toDigits 10 m.natAbs ++ rest = Nat.toDigits 10 n.natAbs ++ rest') :
      m.natAbs = n.natAbs ∧ rest = rest' := by
    have hdigits {k : Nat} : ∀ c ∈ Nat.toDigits 10 k, c.isDigit = true := fun c hc =>
      Nat.isDigit_of_mem_toDigits (by decide) (by decide) hc
    have hsame := append_inj_of_run hdigits hdigits (fun c hc => (hrest c hc).1)
      (fun c hc => (hrest' c hc).1) h
    exact ⟨toDigits_injective hsame.1, hsame.2⟩
  rw [toList_toString_int, toList_toString_int] at h
  by_cases hm : m < 0 <;> by_cases hn : n < 0 <;>
    simp only [hm, hn, decide_true, decide_false, sign, if_true, Bool.false_eq_true, if_false,
      List.cons_append, List.nil_append] at h
  · have hsame := digits (List.cons.inj h).2
    exact ⟨by omega, hsame.2⟩
  · exact absurd h (dash_cons_ne_toDigits_append _ _ _)
  · exact absurd h.symm (dash_cons_ne_toDigits_append _ _ _)
  · have hsame := digits h
    exact ⟨by omega, hsame.2⟩

theorem hexDigit_injective : ∀ m, m < 16 → ∀ n, n < 16 → hexDigit m = hexDigit n → m = n := by
  decide

theorem hexDigits_injective {bytes bytes' : List UInt8} (h : hexDigits bytes = hexDigits bytes') :
    bytes = bytes' := by
  induction bytes generalizing bytes' with
  | nil =>
      cases bytes' with
      | nil => rfl
      | cons b bs => cases h
  | cons b bs ih =>
      cases bytes' with
      | nil => cases h
      | cons b' bs' =>
          rw [hexDigits, hexDigits, List.cons.injEq, List.cons.injEq] at h
          obtain ⟨hhigh, hlow, hrest⟩ := h
          have hb := b.toNat_lt
          have hb' := b'.toNat_lt
          have hdiv := hexDigit_injective _ (by omega) _ (by omega) hhigh
          have hmod := hexDigit_injective _ (by omega) _ (by omega) hlow
          have hbyte : b = b' := UInt8.toNat_inj.mp (by omega)
          rw [hbyte, ih hrest]

theorem quoteLiteral_append_inj {s t : String} {rest rest' : List Char} (hrest : EndsLiteral rest)
    (hrest' : EndsLiteral rest')
    (h : (quoteLiteral s).toList ++ rest = (quoteLiteral t).toList ++ rest') :
    s = t ∧ rest = rest' := by
  have hends {rest : List Char} (hrest : EndsLiteral rest) : rest.head? ≠ some '\'' := fun hhead =>
    (hrest _ hhead).2 rfl
  have hs := Sql.closeQuoted_doubled s.toList (hends hrest)
  have ht := Sql.closeQuoted_doubled t.toList (hends hrest')
  simp only [quoteLiteral, String.toList_ofList, quoted, List.cons_append, List.append_assoc,
    List.nil_append, List.cons.injEq, true_and] at h
  rw [h, ht, Option.some.injEq, Prod.mk.injEq] at hs
  have hst : s = t := String.toList_inj.mp hs.1.symm
  subst hst
  exact ⟨rfl, (List.cons.inj (List.append_cancel_left h)).2⟩

theorem blobLiteral_append_inj {bytes bytes' : List UInt8} {rest rest' : List Char}
    (h : (blobLiteral bytes).toList ++ rest = (blobLiteral bytes').toList ++ rest') :
    bytes = bytes' ∧ rest = rest' := by
  have hmarks {bs : List UInt8} : ∀ c ∈ hexDigits bs, (c != '\'') = true := by
    intro c hc
    rw [bne_iff_ne]
    rintro rfl
    exact mark_not_mem_hexDigits bs hc
  simp only [blobLiteral, String.toList_ofList, List.cons_append, List.append_assoc,
    List.nil_append, List.cons.injEq, true_and] at h
  have hsame := append_inj_of_run hmarks hmarks (by simp) (by simp) h
  exact ⟨hexDigits_injective hsame.1, (List.cons.inj hsame.2).2⟩

theorem classOf_numeric {s : List Char} (h : Numeric s) :
    ∃ c cs, s = c :: cs ∧ classOf c = some .integer := by
  obtain ⟨hne, hall⟩ := h
  cases s with
  | nil => exact absurd rfl hne
  | cons c cs =>
      have other {d : Char} (hd : isNumeral d = false) (hdash : d ≠ '-') : c ≠ d := by
        rintro rfl
        simp [hd, hdash] at hall
      refine ⟨c, cs, rfl, ?_⟩
      rw [classOf, if_neg (other (by decide) (by decide)), if_neg (other (by decide) (by decide)),
        if_neg (other (by decide) (by decide))]

/-- A literal begins with a character that shows the storage class. -/
theorem classOf_literal {cell : Cell} (h : cell.isReal = false) :
    ∃ c cs, cell.literal.toList = c :: cs ∧ classOf c = cell.storageClass? := by
  cases cell with
  | none => exact ⟨'N', "ULL".toList, rfl, rfl⟩
  | some v =>
      cases v with
      | integer n => exact classOf_numeric (numeric_toString_int _)
      | real x => cases h
      | text s => exact ⟨'\'', _, (String.toList_ofList).trans rfl, rfl⟩
      | blob bytes => exact ⟨'X', _, toList_blobLiteral bytes, rfl⟩

/-- What a literal and the text after it are, can be told from the two together. -/
theorem literal_append_inj {a b : Cell} {rest rest' : List Char} (ha : a.isReal = false)
    (hb : b.isReal = false) (hrest : EndsLiteral rest) (hrest' : EndsLiteral rest')
    (h : a.literal.toList ++ rest = b.literal.toList ++ rest') : a = b ∧ rest = rest' := by
  have hclass : a.storageClass? = b.storageClass? := by
    obtain ⟨c, cs, hc, hca⟩ := classOf_literal ha
    obtain ⟨d, ds, hd, hdb⟩ := classOf_literal hb
    rw [hc, hd, List.cons_append, List.cons_append] at h
    rw [← hca, ← hdb, (List.cons.inj h).1]
  cases a with
  | none =>
      cases b with
      | none => exact ⟨rfl, List.append_cancel_left h⟩
      | some w => cases hclass
  | some v =>
      cases b with
      | none => cases hclass
      | some w =>
          have hvw : v.storageClass = w.storageClass := Option.some.inj hclass
          cases v with
          | integer m =>
              cases w with
              | integer n =>
                  have hsame := toString_int_append_inj hrest hrest' h
                  exact ⟨by rw [Int64.toInt_inj.mp hsame.1], hsame.2⟩
              | _ => cases hvw
          | real x => cases ha
          | text s =>
              cases w with
              | text t =>
                  have hsame := quoteLiteral_append_inj hrest hrest' h
                  exact ⟨by rw [hsame.1], hsame.2⟩
              | _ => cases hvw
          | blob bytes =>
              cases w with
              | blob bytes' =>
                  have hsame := blobLiteral_append_inj h
                  exact ⟨by rw [hsame.1], hsame.2⟩
              | _ => cases hvw

/-! ## Texts -/

theorem not_isDigit_of_isGap {c : Char} (h : isGap c = true) : c.isDigit = false ∧ c ≠ '\'' := by
  simp only [isGap, isBoundary, Bool.and_eq_true, Bool.not_eq_true'] at h
  refine ⟨h.1.1.2, ?_⟩
  rintro rfl
  simp at h

/-- A positional token has a gap after it. -/
def Spaces (p q : Piece) : Prop :=
  (∃ digits, p = .parameter (.positional digits)) → ∃ c, q = .char c ∧ isGap c = true

theorem endsLiteral_fill {p : Piece} {ps : List Piece} (hp : ∃ digits, p = .parameter (.positional digits))
    (h : ∀ q ∈ ps.head?, Spaces p q) (cells : List Cell) : EndsLiteral (fill ps cells) := by
  cases ps with
  | nil => simp [EndsLiteral, fill]
  | cons q qs =>
      obtain ⟨c, rfl, hc⟩ := h q rfl hp
      rw [fill_cons_copied (by simp)]
      simpa [EndsLiteral, Piece.text] using not_isDigit_of_isGap hc

/-- Where a gap follows each positional token, the text tells the cells. -/
theorem fill_injective {ps : List Piece} {cells cells' : List Cell} (hps : ps.IsChain Spaces)
    (hmarks : positionals ps = List.replicate cells.length (.positional []))
    (hmarks' : positionals ps = List.replicate cells'.length (.positional []))
    (hreal : ∀ cell ∈ cells, cell.isReal = false) (hreal' : ∀ cell ∈ cells', cell.isReal = false)
    (h : fill ps cells = fill ps cells') : cells = cells' := by
  induction ps generalizing cells cells' with
  | nil =>
      have hnone {cs : List Cell}
          (hcs : positionals [] = List.replicate cs.length (.positional [])) : cs = [] := by
        cases cs with
        | nil => rfl
        | cons c cs => simp [positionals, List.replicate_succ] at hcs
      rw [hnone hmarks, hnone hmarks']
  | cons p ps ih =>
      rw [List.isChain_cons] at hps
      by_cases hp : ∃ digits, p = .parameter (.positional digits)
      · have hends := endsLiteral_fill hp hps.1
        obtain ⟨digits, rfl⟩ := hp
        cases cells with
        | nil => simp at hmarks
        | cons a as =>
            cases cells' with
            | nil => simp at hmarks'
            | cons b bs =>
                rw [positionals_positional, List.length_cons, List.replicate_succ,
                  List.cons.injEq] at hmarks hmarks'
                rw [List.forall_mem_cons] at hreal hreal'
                rw [fill, fill] at h
                have hsame := literal_append_inj hreal.1 hreal'.1 (hends as) (hends bs) h
                rw [hsame.1, ih hps.2 hmarks.2 hmarks'.2 hreal.2 hreal'.2 hsame.2]
      · have hcopied : ∀ digits, p ≠ .parameter (.positional digits) := fun d hd => hp ⟨d, hd⟩
        rw [positionals_cons_copied hcopied] at hmarks hmarks'
        rw [fill_cons_copied hcopied, fill_cons_copied hcopied] at h
        exact ih hps.2 hmarks hmarks' hreal hreal' (List.append_cancel_left h)

theorem Reads.positional_notMem_scan {d e : Nat} {s : List Char} (h : Reads d e 0 s)
    (digits : List Char) : .parameter (.positional digits) ∉ scan s := by
  intro hscan
  have hmem : .positional digits ∈ parameters s := List.mem_filterMap.mpr ⟨_, hscan, rfl⟩
  simp [h.marks] at hmem

namespace Fragment

/-- A closed fragment where a gap follows each mark that does not end the text. -/
structure Delimited (x : Fragment) : Prop extends x.Closed where
  spaced : (scan x.sql.toList).IsChain Spaces

/-- The pieces of a text that begins with a gap. -/
theorem scan_gap {c : Char} (h : isGap c = true) (cs : List Char) :
    (scan (c :: cs)).head? = some (.char c) := by
  simp only [isGap, isSigil, Bool.and_eq_true, Bool.not_eq_true', Bool.or_eq_false_iff,
    beq_eq_false_iff_ne] at h
  obtain ⟨-, ⟨⟨⟨h1, h2⟩, h3⟩, h4⟩⟩ := h
  simp [scan, Mode.yields, Mode.step, Mode.start, h1, h2, h3, h4]

namespace Delimited

variable {x y : Fragment} {d e : Nat} {w : String}

theorem bound (cell : Cell) : (bound cell).Delimited where
  toClosed := .bound cell
  spaced := by
    have hmark : (Fragment.bound cell).sql.toList = ['?'] := show "?".toList = ['?'] by decide
    rw [hmark]
    exact List.isChain_singleton _

theorem raw_self (h : Reads d e 0 w.toList) : (raw w).Delimited where
  toClosed := .raw_self h
  spaced := by
    refine List.Pairwise.isChain (List.pairwise_of_forall_mem_list fun p hp q _ hmark => ?_)
    obtain ⟨digits, rfl⟩ := hmark
    exact absurd hp (h.positional_notMem_scan digits)

theorem append (hx : x.Delimited) (hy : y.Delimited) (hj : Joins x.sql.toList y.sql.toList)
    (hspaces : ∀ p ∈ (scan x.sql.toList).getLast?, ∀ q ∈ (scan y.sql.toList).head?, Spaces p q) :
    (x ++ y).Delimited where
  toClosed := hx.toClosed.append hy.toClosed hj
  spaced := by
    rw [sql_append, String.toList_append, hj.scan_append hx.ends]
    exact hx.spaced.append hy.spaced hspaces

end Delimited

theorem Delimited.compositional : Compositional Delimited where
  bound := .bound
  word := .raw_self
  word_append hw hx := by
    refine (Delimited.raw_self hw.reads).append hx (.inl hw.settled) fun p hp q _ hmark => ?_
    obtain ⟨digits, rfl⟩ := hmark
    exact absurd (List.mem_of_getLast? hp) (hw.reads.positional_notMem_scan digits)
  append {x y} hx hy hapart := by
    refine hx.append hy (hapart.joins _) fun p _ q hq _ => ?_
    cases hsql : y.sql.toList with
    | nil => simp [hsql, scan, Mode.yields, Mode.after, Mode.finish] at hq
    | cons c cs =>
        have hgap := hapart c (by simp [hsql])
        rw [hsql, scan_gap hgap cs] at hq
        exact ⟨c, (Option.some.inj hq).symm, hgap⟩

/-- The text that a delimited fragment compiles to tells its cells. -/
theorem Delimited.cells_eq {x y : Fragment} (hx : x.Delimited) (hy : y.Delimited)
    (hsql : x.sql = y.sql) (hreal : ∀ cell ∈ x.cells ++ y.cells, cell.isReal = false)
    (h : x.compile = y.compile) : x.cells = y.cells := by
  rw [List.forall_mem_append] at hreal
  rw [hx.compile, hy.compile, ← hsql] at h
  have hy' := hy.marks
  rw [← hsql] at hy'
  have htext := String.ofList_injective (Except.ok.inj h)
  exact fill_injective hx.spaced hx.marks hy' hreal.1 hreal.2 htext

end Fragment

end TypedSql
