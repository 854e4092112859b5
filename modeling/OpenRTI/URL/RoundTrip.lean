import Mathlib.Algebra.GroupWithZero.Nat
import OpenRTI.URL.Reading

/-!
# Writing a URL and reading it

A URL is read as it was written if and only if no percent sign is taken for the
begin of a quoted byte and no ampersand splits a query.  An ampersand in a query
is lost, and nothing that is read makes up for it.
-/

namespace OpenRTI
namespace URL

/-! ## Splitting -/

/-- The separators between queries. -/
abbrev separators : List UInt8 := [ampersand, semicolon]

theorem split_piece
    {piece : ByteString}
    (whole : ∀ c ∈ piece, c ∉ separators) :
    split separators piece = [piece] := by
  have none : piece.dropWhile (· ∉ separators) = [] := by
    rw [List.dropWhile_eq_nil_iff]
    intro c member
    exact decide_eq_true (whole c member)
  rw [split.eq_def]
  split
  next => rfl
  next some =>
    rw [none] at some
    cases some

theorem split_append
    {piece : ByteString}
    (whole : ∀ c ∈ piece, c ∉ separators)
    {separator : UInt8}
    (separates : separator ∈ separators)
    (rest : ByteString) :
    split separators (piece ++ separator :: rest) =
      piece ::
        if rest.dropWhile (· ∈ separators) = [] then []
        else split separators (rest.dropWhile (· ∈ separators)) := by
  have ends : decide (separator ∉ separators) = false :=
    decide_eq_false (not_not_intro separates)
  have passes : ∀ c ∈ piece, decide (c ∉ separators) = true :=
    fun c member => decide_eq_true (whole c member)
  have behind : (piece ++ separator :: rest).dropWhile (· ∉ separators) =
      separator :: rest := by
    rw [List.dropWhile_append_of_pos passes, List.dropWhile_cons, ends]
    rfl
  have before : (piece ++ separator :: rest).takeWhile (· ∉ separators) =
      piece := by
    rw [List.takeWhile_append_of_pos passes, List.takeWhile_cons, ends]
    exact List.append_nil _
  rw [split.eq_def]
  split
  next none =>
    rw [behind] at none
    cases none
  next some =>
    rw [behind] at some
    injection some with _ same
    rw [before, same]

/-! ## Queries without ampersands -/

theorem parseQuery_strQuery (query : ByteString × ByteString) :
    parseQuery (strQuery query) =
      (unquote (quote query.1 false), unquote (quote query.2 false)) := by
  have absent : equals ∉ quote query.1 false :=
    notMem_quote rfl (by decide) rfl query.1
  rw [strQuery]
  split
  next noValue =>
    have noEquals : find (quote query.1 false ++ []) equals 0 = none := by
      refine find_eq_none ?_
      rwa [List.drop_zero, List.append_nil]
    rw [parseQuery, noEquals, noValue, List.append_nil]
    rfl
  next =>
    have found := find_eq_some (List.drop_zero : List.drop 0
      (quote query.1 false ++ equals :: quote query.2 false) = _) absent
    rw [Nat.zero_add] at found
    rw [parseQuery, found]
    dsimp only
    rw [substr_some List.drop_zero rfl, substr, ← List.drop_drop,
      List.drop_left]
    rfl

variable {query : ByteString × ByteString}

/-- A character is in a written query if and only if it is in the key or the
value, unless it is quoted. -/
theorem mem_strQuery
    {c : UInt8}
    (notPercent : c ≠ percent)
    (notHex : hexValue c = none)
    (notEquals : c ≠ equals) :
    c ∈ strQuery query ↔
      isQuoted false c = false ∧ (c ∈ query.1 ∨ c ∈ query.2) := by
  rw [strQuery, List.mem_append, mem_quote_iff notPercent notHex]
  split
  next none =>
    rw [none]
    simp
  next =>
    rw [List.mem_cons, mem_quote_iff notPercent notHex]
    simp only [notEquals, false_or]
    rw [and_or_left]

/-- No ampersand separates the key or the value of a query. -/
def WithoutAmpersand (query : ByteString × ByteString) : Prop :=
  ampersand ∉ query.1 ∧ ampersand ∉ query.2

instance (query : ByteString × ByteString) :
    Decidable (WithoutAmpersand query) :=
  inferInstanceAs (Decidable (_ ∧ _))

theorem ampersand_mem_strQuery (query : ByteString × ByteString) :
    ampersand ∈ strQuery query ↔ ¬WithoutAmpersand query := by
  rw [mem_strQuery (by decide) rfl (by decide), WithoutAmpersand]
  have raw : isQuoted false ampersand = false := rfl
  rw [raw]
  simp only [true_and]
  rw [not_and_or, not_not, not_not]

theorem semicolon_notMem_strQuery (query : ByteString × ByteString) :
    semicolon ∉ strQuery query := by
  rw [mem_strQuery (by decide) rfl (by decide)]
  intro ⟨quoted, _⟩
  cases quoted

theorem strQuery_whole
    (without : WithoutAmpersand query) :
    ∀ c ∈ strQuery query, c ∉ separators := by
  intro c member separates
  simp only [List.mem_cons, List.not_mem_nil, or_false] at separates
  rcases separates with rfl | rfl
  · exact (ampersand_mem_strQuery query).mp member without
  · exact semicolon_notMem_strQuery query member

theorem quote_ne_nil
    {unquoted : ByteString}
    (some : unquoted ≠ [])
    (pathMode : Bool) :
    quote unquoted pathMode ≠ [] := by
  obtain ⟨c, rest, cons⟩ := List.exists_cons_of_ne_nil some
  rw [cons, quote_cons]
  split
  · exact List.cons_ne_nil _ _
  · exact List.cons_ne_nil _ _

/-- A query with a key does not begin with a separator. -/
theorem dropWhile_strQuery
    (without : WithoutAmpersand query)
    (key : query.1 ≠ [])
    (rest : ByteString) :
    (strQuery query ++ rest).dropWhile (· ∈ separators) =
        strQuery query ++ rest ∧
      strQuery query ++ rest ≠ [] := by
  have some : strQuery query ≠ [] := by
    rw [strQuery]
    intro none
    exact quote_ne_nil key false (List.append_eq_nil_iff.mp none).1
  obtain ⟨c, others, cons⟩ := List.exists_cons_of_ne_nil some
  have whole := strQuery_whole without c (by rw [cons]; exact List.mem_cons_self)
  rw [cons, List.cons_append, List.dropWhile_cons, decide_eq_false whole]
  exact ⟨rfl, List.cons_ne_nil _ _⟩

/-- Queries without ampersands are read one by one. -/
theorem split_strQueries
    {others : List (ByteString × ByteString)}
    (without : ∀ each ∈ query :: others, WithoutAmpersand each)
    (keys : ∀ each ∈ query :: others, each.1 ≠ []) :
    split separators (strQuery query ++ strQueries ampersand others) =
      (query :: others).map strQuery := by
  induction others generalizing query with
  | nil =>
      rw [strQueries, List.append_nil]
      exact split_piece (strQuery_whole (without query List.mem_cons_self))
  | cons next others ih =>
      rw [List.forall_mem_cons] at without keys
      obtain ⟨same, some⟩ := dropWhile_strQuery
        (without.2 next List.mem_cons_self) (keys.2 next List.mem_cons_self)
        (strQueries ampersand others)
      rw [strQueries, List.cons_append,
        split_append (strQuery_whole without.1) List.mem_cons_self, same,
        if_neg some, ih without.2 keys.2]
      rfl

variable {queries : List (ByteString × ByteString)}

theorem readQueries_of_without
    (without : ∀ each ∈ queries, WithoutAmpersand each)
    (keys : ∀ each ∈ queries, each.1 ≠ []) :
    readQueries queries =
      queries.map fun query =>
        (unquote (quote query.1 false), unquote (quote query.2 false)) := by
  cases queries with
  | nil => rfl
  | cons query others =>
      rw [readQueries, split_strQueries without keys, List.map_map]
      exact List.map_congr_left fun each _ => parseQuery_strQuery each

/-! ## Lengths of what is read -/

/-- A separator is read by itself, whatever stands before it. -/
theorem length_unquote_separator
    {separator : UInt8}
    (notPercent : separator ≠ percent)
    (notHex : hexValue separator = none)
    (before behind : ByteString) :
    (unquote before).length + 1 + (unquote behind).length ≤
      (unquote (before ++ separator :: behind)).length := by
  have alone : (unquote (separator :: behind)).length =
      (unquote behind).length + 1 := by
    rw [unquote_plain notPercent]
    rfl
  fun_induction unquote before with
  | case1 =>
      rw [List.nil_append, alone]
      simp
      omega
  | case2 =>
      rw [List.singleton_append, unquote_tolerant_first notHex]
      simp only [List.length_cons, List.length_nil]
      omega
  | case3 first behind' isNone ih =>
      rw [List.cons_append, List.cons_append, unquote_tolerant_first isNone,
        ← List.cons_append]
      simp only [List.length_cons] at ih ⊢
      omega
  | case4 first high isSome =>
      rw [List.cons_append, List.singleton_append,
        unquote_tolerant_second isSome notHex,
        unquote_plain (ne_percent_of_hexValue isSome)]
      simp only [List.length_cons, List.length_nil]
      omega
  | case5 first high isSome second others isNone ih =>
      rw [List.cons_append, List.cons_append, List.cons_append,
        unquote_tolerant_second isSome isNone, ← List.cons_append, ← List.cons_append]
      simp only [List.length_cons] at ih ⊢
      omega
  | case6 first high isSome second others low isSome' ih =>
      rw [List.cons_append, List.cons_append, List.cons_append,
        unquote_hex isSome isSome']
      simp only [List.length_cons]
      omega
  | case7 c rest plain ih =>
      rw [List.cons_append, unquote_plain plain]
      simp only [List.length_cons]
      omega

/-- The characters a query is written with, quoted bytes counted once. -/
def weight (query : ByteString × ByteString) : Nat :=
  query.1.length + query.2.length + if query.2 = [] then 0 else 1

theorem weight_parseQuery_le (s : ByteString) :
    weight (parseQuery s) ≤ (unquote s).length := by
  rw [parseQuery, find, List.drop_zero]
  cases found : s.findIdx? (· = equals) with
  | none => exact Nat.le_refl _
  | some pos =>
      obtain ⟨within, isEquals, _⟩ :=
        List.findIdx?_eq_some_iff_getElem.mp found
      have parts : s = s.take pos ++ equals :: s.drop (pos + 1) := by
        rw [← of_decide_eq_true isEquals, ← List.drop_eq_getElem_cons within,
          List.take_append_drop]
      have read := length_unquote_separator (by decide : equals ≠ percent) rfl
        (s.take pos) (s.drop (pos + 1))
      rw [← parts] at read
      simp only [Option.map_some, Nat.add_zero, weight, substr, List.drop_zero]
      split
      · omega
      · omega

theorem plain_of_mem_separators
    {c : UInt8}
    (separates : c ∈ separators) :
    c ≠ percent ∧ hexValue c = none := by
  simp only [List.mem_cons, List.not_mem_nil, or_false] at separates
  rcases separates with rfl | rfl
  · exact ⟨by decide, rfl⟩
  · exact ⟨by decide, rfl⟩

/-- A run of separators is read character by character. -/
theorem count_dropWhile_le (s : ByteString) :
    (unquote (s.dropWhile (· ∈ separators))).length + s.count ampersand ≤
      (unquote s).length +
        (s.dropWhile (· ∈ separators)).count ampersand := by
  induction s with
  | nil => exact Nat.le_refl _
  | cons c s ih =>
      rw [List.dropWhile_cons]
      split
      next separates =>
        have plain := (plain_of_mem_separators (of_decide_eq_true separates)).1
        rw [unquote_plain plain, List.length_cons, List.count_cons]
        split
        · omega
        · omega
      next => exact Nat.le_refl _

theorem ampersand_notMem_takeWhile (s : ByteString) :
    (s.takeWhile (· ∉ separators)).count ampersand = 0 := by
  rw [List.count_eq_zero]
  intro member
  have passes := List.mem_takeWhile_imp member
  exact of_decide_eq_true passes List.mem_cons_self

/-- What is read of the queries and the ampersands between them have room in
the text. -/
theorem weight_split_le (s : ByteString) :
    (((split separators s).map parseQuery).map weight).sum +
        s.count ampersand ≤ (unquote s).length := by
  fun_induction split separators s with
  | case1 s none =>
      have same : s.takeWhile (· ∉ separators) = s := by
        have parts := @List.takeWhile_append_dropWhile _ (· ∉ separators) s
        rwa [none, List.append_nil] at parts
      have read := weight_parseQuery_le s
      have free := ampersand_notMem_takeWhile s
      rw [same] at free
      simp only [List.map_cons, List.map_nil, List.sum_cons, List.sum_nil]
      omega
  | case2 s c rest some ih =>
      have head := List.head?_dropWhile_not (· ∉ separators) s
      rw [some] at head
      have separates : c ∈ separators := by
        rw [List.head?_cons] at head
        exact not_not.mp (of_decide_eq_false head)
      obtain ⟨notPercent, notHex⟩ := plain_of_mem_separators separates
      have parts := @List.takeWhile_append_dropWhile _ (· ∉ separators) s
      rw [some] at parts
      have count : s.count ampersand ≤ rest.count ampersand + 1 := by
        rw [← parts, List.count_append, ampersand_notMem_takeWhile,
          List.count_cons]
        split
        · omega
        · omega
      have room := length_unquote_separator notPercent notHex
        (s.takeWhile (· ∉ separators)) rest
      rw [parts] at room
      have read := weight_parseQuery_le (s.takeWhile (· ∉ separators))
      have skipped := count_dropWhile_le rest
      split
      next none =>
        rw [none] at skipped
        simp only [List.map_cons, List.map_nil, List.sum_cons, List.sum_nil]
        simp only [unquote, List.length_nil, List.count_nil] at skipped
        omega
      next =>
        simp only [List.map_cons, List.sum_cons]
        omega

/-! ## What is read of queries -/

theorem length_unquote_strQuery_append_le
    (query : ByteString × ByteString) (rest : ByteString) :
    (unquote (strQuery query ++ rest)).length ≤
      weight query + (unquote rest).length := by
  rw [strQuery, weight, List.append_assoc]
  refine (length_unquote_quote_append_le _ _ _).trans ?_
  split
  next none =>
    rw [List.nil_append]
    omega
  next =>
    have value := length_unquote_quote_append_le query.2 rest false
    rw [List.cons_append, unquote_plain (by decide), List.length_cons]
    omega

theorem length_unquote_strQueries_le
    (queries : List (ByteString × ByteString)) :
    (unquote (strQueries ampersand queries)).length ≤
      queries.length + (queries.map weight).sum := by
  induction queries with
  | nil => exact Nat.le_refl _
  | cons query queries ih =>
      have first := length_unquote_strQuery_append_le query
        (strQueries ampersand queries)
      rw [strQueries, List.cons_append, unquote_plain (by decide)]
      simp only [List.length_cons, List.map_cons, List.sum_cons]
      omega

theorem count_strQueries (queries : List (ByteString × ByteString)) :
    (strQueries ampersand queries).count ampersand =
      queries.length +
        (queries.map fun query => (strQuery query).count ampersand).sum := by
  induction queries with
  | nil => rfl
  | cons query queries ih =>
      rw [strQueries, List.cons_append, List.count_cons_self,
        List.count_append, ih]
      simp only [List.length_cons, List.map_cons, List.sum_cons]
      omega

/-- An ampersand in a query is lost. -/
theorem without_of_readQueries
    (same : readQueries queries = queries) :
    ∀ query ∈ queries, WithoutAmpersand query := by
  cases queries with
  | nil => exact fun _ member => absurd member List.not_mem_nil
  | cons query others =>
      have room := weight_split_le (strQuery query ++ strQueries ampersand others)
      have first := length_unquote_strQuery_append_le query
        (strQueries ampersand others)
      have behind := length_unquote_strQueries_le others
      rw [readQueries] at same
      rw [same, List.count_append, count_strQueries] at room
      simp only [List.map_cons, List.sum_cons] at room
      have none : ((query :: others).map fun each =>
          (strQuery each).count ampersand).sum = 0 := by
        simp only [List.map_cons, List.sum_cons]
        omega
      rw [List.sum_eq_zero_iff_forall_eq_nat, List.forall_mem_map] at none
      intro each member
      by_contra contains
      rw [← ampersand_mem_strQuery, ← List.count_pos_iff,
        none each member] at contains
      exact Nat.lt_irrefl 0 contains

/-- The queries are read as they were written if and only if no ampersand and
no percent sign in them has another meaning. -/
theorem readQueries_eq_iff
    (keys : ∀ each ∈ queries, each.1 ≠ []) :
    readQueries queries = queries ↔
      ∀ query ∈ queries,
        percentsKept query.1 = true ∧ percentsKept query.2 = true ∧
          WithoutAmpersand query := by
  have read : ∀ (_ : ∀ each ∈ queries, WithoutAmpersand each),
      (readQueries queries = queries ↔ ∀ query ∈ queries,
        percentsKept query.1 = true ∧ percentsKept query.2 = true) := by
    intro without
    rw [readQueries_of_without without keys]
    conv_lhs => rhs; rw [← List.map_id queries]
    rw [List.map_inj_left]
    simp only [Prod.ext_iff, unquote_quote_iff, id]
  constructor
  · intro same query member
    have without := without_of_readQueries same
    have kept := (read without).mp same query member
    exact ⟨kept.1, kept.2, without query member⟩
  · intro each
    refine (read fun query member => (each query member).2.2).mpr ?_
    intro query member
    exact ⟨(each query member).1, (each query member).2.1⟩

/-! ## The round trip -/

/-- A well formed URL is read as it was written if and only if no query has an
ampersand, and no percent sign is taken for the begin of a quoted byte. -/
theorem fromUrl_str_eq_iff
    {url : URL}
    (wellFormed : WellFormed url) :
    fromUrl url.str = url ↔
      percentsKept url.path = true ∧
        (∀ query ∈ url.query,
          percentsKept query.1 = true ∧ percentsKept query.2 = true ∧
            WithoutAmpersand query) ∧
        percentsKept url.ref = true := by
  rw [fromUrl_str wellFormed, URL.mk.injEq, readQueries_eq_iff wellFormed.keys]
  simp only [true_and, unquote_quote_iff]

/-- `rti://fed:80/a b?k=%zz#ref`, written with the space quoted. -/
def spaced : URL where
  protocol := [0x72, 0x74, 0x69]
  host := [0x66, 0x65, 0x64]
  service := [0x38, 0x30]
  path := [slash, 0x61, 0x20, 0x62]
  query := [([0x6B], [percent, 0x7A, 0x7A])]
  ref := [0x72, 0x65, 0x66]

set_option maxRecDepth 4000 in
theorem wellFormed_spaced : WellFormed spaced where
  protocol := List.cons_ne_nil _ _
  host := List.cons_ne_nil _ _
  plainProtocol := by decide
  plainHost := by decide
  plainService := by decide
  path := ⟨_, rfl⟩
  keys := by decide

theorem fromUrl_str_eq_iff_spaced :
    WellFormed spaced ∧ fromUrl spaced.str = spaced :=
  ⟨wellFormed_spaced, (fromUrl_str_eq_iff wellFormed_spaced).mpr (by decide)⟩

/-- The ampersand in the value of `k=a&b` separates two queries. -/
theorem fromUrl_str_ampersand_fails :
    ¬∀ url : URL, WellFormed url → fromUrl url.str = url := by
  intro every
  have wellFormed : WellFormed
      { spaced with query := [([0x6B], [0x61, ampersand, 0x62])] } :=
    { wellFormed_spaced with keys := by decide }
  have same := every _ wellFormed
  rw [fromUrl_str wellFormed, URL.mk.injEq] at same
  have without := without_of_readQueries same.2.2.2.2.1
  exact absurd without (by decide)

end URL
end OpenRTI
