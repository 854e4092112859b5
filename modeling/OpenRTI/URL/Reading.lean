import OpenRTI.URL.Parsing

/-!
# Reading the parts of a URL

The parts of a URL that is written with no separators in its protocol, host and
service are found where they were written.  What is read of the path, of the
queries and of the reference is what unquoting makes of them.
-/

namespace OpenRTI
namespace URL

variable {before : ByteString} {c : UInt8}

/-! ## Positions -/

/-- The first position of a character. -/
theorem findIdx?_append_cons
    (first : c ∉ before)
    (behind : ByteString) :
    (before ++ c :: behind).findIdx? (· = c) = some before.length := by
  have absent : before.findIdx? (· = c) = none := by
    rw [List.findIdx?_eq_none_iff]
    intro other member
    exact decide_eq_false fun same => first (same ▸ member)
  rw [List.findIdx?_append, absent, List.findIdx?_cons]
  simp

theorem find_eq_some
    {s before behind : ByteString} {c : UInt8}
    {pos : Nat}
    (there : s.drop pos = before ++ c :: behind)
    (first : c ∉ before) :
    find s c pos = some (pos + before.length) := by
  rw [find, there, findIdx?_append_cons first]
  exact congrArg some (Nat.add_comm _ _)

variable {pos : Nat}

theorem find_eq_none
    {s : ByteString}
    (absent : c ∉ s.drop pos) :
    find s c pos = none := by
  rw [find, List.findIdx?_eq_none_iff.mpr (by grind)]
  rfl

theorem rfind_eq_none
    {s : ByteString}
    (absent : c ∉ s) :
    rfind s c = none := by
  rw [rfind, List.findIdx?_eq_none_iff.mpr (by grind)]
  rfl

theorem rfind_eq_some
    {before behind : ByteString} {c : UInt8}
    (last : c ∉ behind) :
    rfind (before ++ c :: behind) c = some before.length := by
  have first : c ∉ behind.reverse := fun member =>
    last (List.mem_reverse.mp member)
  rw [rfind, List.reverse_append, List.reverse_cons, List.append_assoc,
    List.singleton_append, findIdx?_append_cons first, Option.map_some,
    List.length_reverse, List.length_append, List.length_cons]
  congr 1
  omega

variable {behind : ByteString}

theorem substr_some
    {s : ByteString} {length : Nat}
    (there : s.drop pos = before ++ behind)
    (exactly : length = before.length) :
    substr s pos (some length) = before := by
  rw [substr, there, exactly, List.take_left]

theorem drop_add
    {s : ByteString}
    (there : s.drop pos = before ++ behind) :
    s.drop (pos + before.length) = behind := by
  rw [← List.drop_drop, there, List.drop_left]

/-- The separator that ends the protocol is found at its first character. -/
theorem findString_eq_some
    {first : UInt8} {pattern before behind : ByteString}
    (absent : first ∉ before) :
    findString (first :: pattern) (before ++ first :: (pattern ++ behind)) =
      some before.length := by
  induction before with
  | nil =>
      have isPrefix : (first :: pattern).isPrefixOf
          (first :: (pattern ++ behind)) = true :=
        List.isPrefixOf_iff_prefix.mpr ⟨behind, rfl⟩
      rw [List.nil_append, findString, if_pos isPrefix]
      rfl
  | cons c before ih =>
      rw [List.mem_cons, not_or] at absent
      have notPrefix : ¬(first :: pattern).isPrefixOf
          (c :: (before ++ first :: (pattern ++ behind))) = true := by
        rw [List.isPrefixOf_iff_prefix]
        intro isPrefix
        exact absent.1 (List.cons_prefix_cons.mp isPrefix).1
      rw [List.cons_append, findString, if_neg notPrefix,
        ih absent.2]
      rfl

/-! ## Characters that are written -/

theorem hexValue_hexChar_ne_none (c : UInt8) :
    ∀ digit ∈ quoteByte c, digit ≠ percent → hexValue digit ≠ none := by
  obtain ⟨first, second, _⟩ := hexValue_hexChar c
  intro digit member different
  rw [quoteByte] at member
  simp only [List.mem_cons, List.not_mem_nil, or_false] at member
  rcases member with same | same | same
  · exact absurd same different
  · rw [same, first]
    exact Option.some_ne_none _
  · rw [same, second]
    exact Option.some_ne_none _

variable {pathMode : Bool}

/-- A separator is in a quoted text if and only if it is not quoted, and in the
text. -/
theorem mem_quote_iff
    (notPercent : c ≠ percent)
    (notHex : hexValue c = none)
    {unquoted : ByteString} :
    c ∈ quote unquoted pathMode ↔
      isQuoted pathMode c = false ∧ c ∈ unquoted := by
  rw [quote, List.mem_flatMap]
  constructor
  · intro ⟨d, member, written⟩
    split at written
    next =>
      exact absurd notHex (hexValue_hexChar_ne_none d c written notPercent)
    next plain =>
      rw [List.mem_singleton.mp written]
      exact ⟨Bool.eq_false_iff.mpr plain, member⟩
  · intro ⟨plain, member⟩
    refine ⟨c, member, ?_⟩
    rw [plain]
    exact List.mem_singleton_self c

theorem notMem_quote
    (quoted : isQuoted pathMode c = true)
    (notPercent : c ≠ percent)
    (notHex : hexValue c = none)
    (unquoted : ByteString) :
    c ∉ quote unquoted pathMode := by
  rw [mem_quote_iff notPercent notHex, quoted]
  simp

theorem hash_notMem_quote (unquoted : ByteString) (pathMode : Bool) :
    hash ∉ quote unquoted pathMode := by
  cases pathMode
  · exact notMem_quote rfl (by decide) rfl unquoted
  · exact notMem_quote rfl (by decide) rfl unquoted

theorem questionMark_notMem_quote (unquoted : ByteString) (pathMode : Bool) :
    questionMark ∉ quote unquoted pathMode := by
  cases pathMode
  · exact notMem_quote rfl (by decide) rfl unquoted
  · exact notMem_quote rfl (by decide) rfl unquoted

theorem hash_notMem_strQuery (query : ByteString × ByteString) :
    hash ∉ strQuery query := by
  rw [strQuery, List.mem_append, not_or]
  refine ⟨hash_notMem_quote _ _, ?_⟩
  split
  · exact List.not_mem_nil
  · rw [List.mem_cons, not_or]
    exact ⟨by decide, hash_notMem_quote _ _⟩

theorem hash_notMem_strQueries
    {separator : UInt8}
    (different : hash ≠ separator)
    (queries : List (ByteString × ByteString)) :
    hash ∉ strQueries separator queries := by
  induction queries generalizing separator with
  | nil => exact List.not_mem_nil
  | cons query queries ih =>
      rw [strQueries, List.mem_append, List.mem_cons, not_or, not_or]
      exact ⟨⟨different, hash_notMem_strQuery query⟩,
        ih (by decide)⟩

/-! ## The parts -/

/-- A part without a character that separates or quotes. -/
def Plain (part : ByteString) : Prop :=
  ∀ c ∈ part,
    c ∉ [colon, slash, questionMark, hash, percent, openBracket, closeBracket]

instance (part : ByteString) : Decidable (Plain part) :=
  inferInstanceAs (Decidable (∀ c ∈ part, _))

variable {part : ByteString}

theorem Plain.notMem
    (plain : Plain part)
    (separates : c ∈ [colon, slash, questionMark, hash, percent, openBracket,
      closeBracket]) :
    c ∉ part :=
  fun member => plain c member separates

theorem unquote_of_notMem
    (absent : percent ∉ part) :
    unquote part = part := by
  induction part with
  | nil => rfl
  | cons c rest ih =>
      rw [List.mem_cons, not_or] at absent
      rw [unquote_plain (Ne.symm absent.1), ih absent.2]

/-- The host and the service as they are written. -/
def strAddress (host service : ByteString) : ByteString :=
  host ++ if service = [] then [] else colon :: service

variable {host service : ByteString}

theorem slash_notMem_strAddress
    (plainHost : Plain host) (plainService : Plain service) :
    slash ∉ strAddress host service := by
  rw [strAddress, List.mem_append, not_or]
  refine ⟨plainHost.notMem (by decide), ?_⟩
  split
  · exact List.not_mem_nil
  · rw [List.mem_cons, not_or]
    exact ⟨by decide, plainService.notMem (by decide)⟩

theorem parseInetAddress_strAddress
    (nonempty : host ≠ [])
    (plainHost : Plain host) (plainService : Plain service) :
    parseInetAddress (strAddress host service) = (host, service) := by
  obtain ⟨first, rest, cons⟩ := List.exists_cons_of_ne_nil nonempty
  have notBracket : first ≠ openBracket := by
    intro same
    refine plainHost.notMem (by decide : openBracket ∈ _) ?_
    rw [cons, same]
    exact List.mem_cons_self
  have hostColon : colon ∉ host := plainHost.notMem (by decide)
  have serviceColon : colon ∉ service := plainService.notMem (by decide)
  have shape : ∃ behind, strAddress host service = first :: behind := by
    rw [strAddress, cons]
    exact ⟨_, rfl⟩
  obtain ⟨behind, address⟩ := shape
  rw [address, parseInetAddress.eq_def]
  dsimp only
  rw [if_neg notBracket, ← address, strAddress]
  by_cases none : service = []
  · rw [if_pos none, List.append_nil, rfind_eq_none hostColon, none]
  · rw [if_neg none]
    have last := @rfind_eq_some host service colon serviceColon
    have only := @find_eq_some (host ++ colon :: service) host service colon 0
      rfl hostColon
    rw [Nat.zero_add] at only
    rw [last]
    dsimp only
    rw [only, if_neg (fun different => different rfl)]
    refine Prod.ext ?_ ?_
    · exact substr_some (List.drop_zero) rfl
    · rw [substr, ← List.drop_drop, List.drop_left]
      rfl

/-- The URLs with a protocol, a host and a path, whose first parts need no
quoting. -/
structure WellFormed (url : URL) : Prop where
  protocol : url.protocol ≠ []
  host : url.host ≠ []
  plainProtocol : Plain url.protocol
  plainHost : Plain url.host
  plainService : Plain url.service
  path : ∃ rest, url.path = slash :: rest
  keys : ∀ query ∈ url.query, query.1 ≠ []

/-- The reference as it is written. -/
def strRef (ref : ByteString) : ByteString :=
  if ref = [] then [] else hash :: quote ref false

theorem questionMark_notMem_strRef (ref : ByteString) :
    questionMark ∉ strRef ref := by
  rw [strRef]
  split
  · exact List.not_mem_nil
  · rw [List.mem_cons, not_or]
    exact ⟨by decide, questionMark_notMem_quote _ _⟩

/-- The queries that are read from the text behind the question mark. -/
def readQueries
    (queries : List (ByteString × ByteString)) :
    List (ByteString × ByteString) :=
  match queries with
  | [] => []
  | query :: queries =>
      (split [ampersand, semicolon]
        (strQuery query ++ strQueries ampersand queries)).map parseQuery

section Path

variable
  {s : ByteString}
  {pathBegin : Nat}
  {path ref : ByteString}
  {queries : List (ByteString × ByteString)}
  (there : s.drop pathBegin =
    quote path true ++ (strQueries questionMark queries ++ strRef ref))

include there

theorem find_hash :
    find s hash pathBegin =
      if ref = [] then none
      else some (pathBegin +
        (quote path true ++ strQueries questionMark queries).length) := by
  have absent : hash ∉ quote path true ++ strQueries questionMark queries := by
    rw [List.mem_append, not_or]
    exact ⟨hash_notMem_quote _ _, hash_notMem_strQueries (by decide) _⟩
  rw [← List.append_assoc, strRef] at there
  split
  next none =>
    refine find_eq_none ?_
    rw [there, if_pos none, List.append_nil]
    exact absent
  next some =>
    rw [if_neg some] at there
    exact find_eq_some there absent

theorem find_questionMark :
    find s questionMark pathBegin =
      if queries = [] then none
      else some (pathBegin + (quote path true).length) := by
  have absent := questionMark_notMem_quote path true
  split
  next none =>
    refine find_eq_none ?_
    rw [there, none, List.mem_append, not_or]
    exact ⟨absent, questionMark_notMem_strRef ref⟩
  next some =>
    obtain ⟨query, others, cons⟩ := List.exists_cons_of_ne_nil some
    rw [cons, strQueries, List.cons_append, List.cons_append] at there
    exact find_eq_some there absent

/-- The path ends where the queries or the reference begin. -/
theorem substr_path :
    substr s pathBegin
      ((minPosition (find s questionMark pathBegin)
        (find s hash pathBegin)).map (· - pathBegin)) = quote path true := by
  rw [find_hash there, find_questionMark there]
  by_cases noQueries : queries = []
  · rw [if_pos noQueries, minPosition]
    split
    next noRef =>
      rw [noQueries, noRef] at there
      rw [Option.map_none, substr, there]
      exact List.append_nil _
    next =>
      refine substr_some there ?_
      dsimp only
      rw [noQueries, Nat.add_sub_cancel_left, strQueries, List.append_nil]
  · rw [if_neg noQueries]
    split
    next => exact substr_some there (Nat.add_sub_cancel_left _ _)
    next =>
      refine substr_some there ?_
      rw [Nat.min_eq_left (by rw [List.length_append]; omega)]
      exact Nat.add_sub_cancel_left _ _

/-- The reference follows its mark. -/
theorem substr_ref
    (given : ref ≠ []) :
    substr s (pathBegin +
      (quote path true ++ strQueries questionMark queries).length + 1) none =
        quote ref false := by
  rw [← List.append_assoc, strRef, if_neg given] at there
  rw [substr, ← List.drop_drop, drop_add there]
  rfl

/-- The queries lie between their mark and the reference. -/
theorem substr_queries
    {query : ByteString × ByteString}
    {others : List (ByteString × ByteString)}
    (given : queries = query :: others) :
    substr s (pathBegin + (quote path true).length + 1)
      ((find s hash pathBegin).bind fun refBegin =>
        if pathBegin + (quote path true).length < refBegin then
          some (refBegin - (pathBegin + (quote path true).length) - 1)
        else none) =
      strQuery query ++ strQueries ampersand others := by
  rw [find_hash there]
  have behind : s.drop (pathBegin + (quote path true).length + 1) =
      (strQuery query ++ strQueries ampersand others) ++ strRef ref := by
    rw [← List.drop_drop, drop_add there, given]
    rfl
  split
  next none =>
    rw [Option.bind_none, substr, behind, strRef, if_pos none, List.append_nil]
  next =>
    have length : (quote path true ++ strQueries questionMark queries).length =
        (quote path true).length + 1 +
          (strQuery query ++ strQueries ampersand others).length := by
      rw [given, strQueries, List.cons_append, List.length_append,
        List.length_cons]
      omega
    rw [Option.bind_some, if_pos (by omega)]
    exact substr_some behind (by omega)

/-- What is read behind the address. -/
theorem parsePath_written (url : URL) :
    parsePath url s pathBegin =
      { url with
        path := unquote (quote path true)
        query := readQueries queries
        ref := unquote (quote ref false) } := by
  rw [parsePath]
  rw [substr_path there]
  congr 1
  · rw [find_questionMark there]
    cases given : queries with
    | nil => rw [if_pos rfl, readQueries]
    | cons query others =>
        rw [if_neg (List.cons_ne_nil _ _)]
        dsimp only
        rw [substr_queries there given, readQueries]
  · rw [find_hash there]
    by_cases none : ref = []
    · rw [if_pos none, none]
      rfl
    · rw [if_neg none]
      dsimp only
      rw [substr_ref there none]

end Path

theorem fromUrl_str
    {url : URL}
    (wellFormed : WellFormed url) :
    fromUrl url.str =
      { url with
        path := unquote (quote url.path true)
        query := readQueries url.query
        ref := unquote (quote url.ref false) } := by
  obtain ⟨rest, path⟩ := wellFormed.path
  have service := slash_notMem_strAddress wellFormed.plainHost
    wellFormed.plainService
  have written : url.str = url.protocol ++ colon :: ([slash, slash] ++
      (strAddress url.host url.service ++
        (quote url.path true ++ (strQueries questionMark url.query ++
          strRef url.ref)))) := by
    rw [str, if_neg wellFormed.protocol, strAddress, strRef]
    simp only [List.append_assoc, List.cons_append, List.nil_append]
  have quotedPath : quote url.path true = slash :: quote rest true := by
    rw [path]
    rfl
  have protocolEnd := @findString_eq_some colon [slash, slash] url.protocol
    (strAddress url.host url.service ++ (quote url.path true ++
      (strQueries questionMark url.query ++ strRef url.ref)))
    (wellFormed.plainProtocol.notMem (by decide))
  rw [← written] at protocolEnd
  have protocol : substr url.str 0 (some url.protocol.length) =
      url.protocol := substr_some written rfl
  have behindProtocol : url.str.drop (url.protocol.length + 3) =
      strAddress url.host url.service ++ (quote url.path true ++
        (strQueries questionMark url.query ++ strRef url.ref)) := by
    rw [written, ← List.drop_drop, List.drop_left]
    rfl
  have pathBegin : find url.str slash (url.protocol.length + 3) =
      some (url.protocol.length + 3 +
        (strAddress url.host url.service).length) := by
    rw [quotedPath] at behindProtocol
    exact find_eq_some behindProtocol service
  have address : substr url.str (url.protocol.length + 3)
      (some (url.protocol.length + 3 +
        (strAddress url.host url.service).length -
          (url.protocol.length + 3))) = strAddress url.host url.service :=
    substr_some behindProtocol (Nat.add_sub_cancel_left _ _)
  rw [fromUrl, protocolEnd]
  simp only [Option.map_some, Option.getD_some]
  rw [pathBegin]
  simp only [Option.map_some]
  rw [address, parseInetAddress_strAddress wellFormed.host wellFormed.plainHost
      wellFormed.plainService, protocol,
    unquote_of_notMem (wellFormed.plainProtocol.notMem (by decide)),
    unquote_of_notMem (wellFormed.plainHost.notMem (by decide)),
    unquote_of_notMem (wellFormed.plainService.notMem (by decide))]
  exact parsePath_written (drop_add behindProtocol) _

end URL
end OpenRTI
