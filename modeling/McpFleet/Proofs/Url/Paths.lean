/-
  File:      McpFleet/Proofs/Url/Paths.lean
  Subject:   A path that is written behind the text of a URL.

  The parser judges the characters that count, a path is written behind the
  characters as they stand: what was cut off the end of a URL stands inside the
  longer one.

  * `cleanStart`: the characters that count of a text that goes on.
  * `begins_of_ofText`: where a URL ends in slashes, what stands before them has a
    scheme, and a host if it needs one.
  * **`Begins.isOk_ofText_append`**: whether the longer text is read does not
    depend on the path.
  * **`Begins.ofText_eq_of_endsClear`**: behind a URL that ends in no blank, no
    slash and no `@`, it has the URL's scheme, host and port.
  * **`Begins.suffix_pathText?`**: and the path is the end of its path.
-/
import McpFleet.Proofs.Url.Parts

namespace McpFleet

namespace Url

/-! ## 1. The characters that count -/

/-- The characters that count at the beginning of a text. -/
def cleanStart (cs : List Char) : List Char :=
  (cs.dropWhile isControlOrSpace).filter fun c => !isTabOrLineEnd c

/-- All characters of a path count. -/
theorem cleanStart_append {cs t : List Char} (path : IsPath t) :
    cleanStart (cs ++ t) = cleanStart cs ++ t := by
  have all : (t.filter fun c => !isTabOrLineEnd c) = t := by
    refine List.filter_eq_self.mpr fun c hc => ?_
    rw [isTabOrLineEnd_of_isPathChar (path.chars c hc)]
    rfl
  unfold cleanStart
  rw [Text.dropWhile_append_of_head (path.head (by decide)), List.filter_append, all]

/-- A text counts as its beginning does, but for controls and blanks at its
    end. -/
theorem exists_clean_append (s : String) :
    ∃ ws, clean s ++ ws = cleanStart s.toList ∧ ∀ c ∈ ws, isControlOrSpace c = true := by
  obtain ⟨ws, parts, cut⟩ :=
    Text.exists_dropEndWhile_append isControlOrSpace (s.toList.dropWhile isControlOrSpace)
  refine ⟨ws.filter fun c => !isTabOrLineEnd c, ?_, fun c hc => cut c (List.mem_filter.mp hc).1⟩
  unfold cleanStart clean Text.stripWhile
  rw [← List.filter_append, parts]

theorem clean_eq_cleanStart {s : String}
    (last : ∀ c, s.toList.getLast? = some c → isControlOrSpace c = false) :
    clean s = cleanStart s.toList := by
  unfold clean cleanStart Text.stripWhile
  rw [Text.dropEndWhile_eq_self fun c hc => last c ?_]
  obtain ⟨front, parts⟩ := List.dropWhile_suffix isControlOrSpace (l := s.toList)
  rw [← parts, List.getLast?_append, hc]
  rfl

theorem clean_append {s : String} {cs t : List Char} (path : IsPath t) (h : s.toList = cs ++ t) :
    clean s = cleanStart cs ++ t := by
  have last : ∀ c, s.toList.getLast? = some c → isControlOrSpace c = false := by
    intro c hc
    rw [h, List.getLast?_append, List.getLast?_eq_some_getLast path.ne_nil] at hc
    obtain rfl := Option.some.inj hc
    exact isControlOrSpace_of_isPathChar (path.chars _ (List.getLast_mem path.ne_nil))
  rw [clean_eq_cleanStart last, h, cleanStart_append path]

theorem getLast?_cleanStart {cs : List Char} {c : Char} (last : cs.getLast? = some c)
    (counts : isControlOrSpace c = false) : (cleanStart cs).getLast? = some c := by
  obtain ⟨front, rfl⟩ := List.getLast?_eq_some_iff.mp last
  have stop : ∀ d, [c].head? = some d → isControlOrSpace d = false :=
    fun d hd => Option.some.inj hd ▸ counts
  have kept : isTabOrLineEnd c = false := by
    refine Bool.eq_false_iff.mpr fun gone => ?_
    simp only [isTabOrLineEnd, Bool.or_eq_true, beq_iff_eq] at gone
    obtain (rfl | rfl) | rfl := gone <;> cases counts
  unfold cleanStart
  rw [Text.dropWhile_append_of_head stop, List.filter_append]
  simp [kept]

/-! ## 2. Schemes -/

theorem scheme?_append {cs t : List Char}
    (stop : ∀ c, t.head? = some c → isSchemeChar c = false ∧ c ≠ ':') :
    scheme? (cs ++ t) = (scheme? cs).map fun read => (read.1, read.2 ++ t) := by
  have stop' : ∀ c, t.head? = some c → isSchemeChar c = false := fun c hc => (stop c hc).1
  cases cs with
  | nil =>
    cases t with
    | nil => rfl
    | cons c t =>
      have letter : Text.isAsciiLetter c = false := by
        have scheme := stop' c rfl
        simp only [isSchemeChar, Bool.or_eq_false_iff] at scheme
        exact scheme.1.1.1.1
      simp [scheme?, letter]
  | cons c cs =>
    rw [List.cons_append, scheme?, scheme?, ← List.cons_append, Text.dropWhile_append_of_head stop',
      Text.takeWhile_append_of_head stop']
    split
    · rfl
    · cases behind : (c :: cs).dropWhile isSchemeChar with
      | nil =>
        cases t with
        | nil => rfl
        | cons d t => simp [(stop d rfl).2]
      | cons d rest =>
        by_cases colon : d = ':'
        · subst colon
          rfl
        · simp [colon]

theorem suffix_of_scheme? {cs rest : List Char} {scheme : String}
    (h : scheme? cs = some (scheme, rest)) : rest <:+ cs := by
  cases cs with
  | nil => cases h
  | cons c cs =>
    rw [scheme?] at h
    split at h
    · cases h
    · split at h
      · rename_i behind
        obtain ⟨-, rfl⟩ := Prod.mk.inj (Option.some.inj h)
        exact ((List.suffix_cons ':' _).trans (behind ▸ List.dropWhile_suffix _))
      · cases h

/-! ## 3. Texts -/

section Texts

variable {s base : String} {cs t : List Char} {scheme : String} {rest : List Char}

/-- The beginning of a URL that a path can be written behind: what follows the
    colon has a host, if the scheme has to have one. -/
structure Begins (cs : List Char) (scheme : String) (rest : List Char) : Prop where
  read : scheme? (cleanStart cs) = some (scheme, rest)
  hosted : Hosted scheme rest

/-- A URL begins like that before the slashes at its end. -/
theorem begins_of_ofText {u : Url} {n : Nat} (h : ofText base = .ok u)
    (chars : base.toList = cs ++ List.replicate n '/') : ∃ scheme rest, Begins cs scheme rest := by
  rw [ofText_eq] at h
  cases read : scheme? (clean base) with
  | none =>
    rw [read] at h
    cases h
  | some parts =>
    obtain ⟨scheme, written⟩ := parts
    rw [read] at h
    obtain ⟨ws, counted, blank⟩ := exists_clean_append base
    have slashes : cleanStart base.toList = cleanStart cs ++ List.replicate n '/' := by
      rw [chars]
      cases n with
      | zero => rw [List.replicate_zero, List.append_nil, List.append_nil]
      | succ n => exact cleanStart_append (.slashes n)
    have stop : ∀ c, ws.head? = some c → isSchemeChar c = false ∧ c ≠ ':' :=
      fun c hc => (apart_of_isControlOrSpace (blank c (List.mem_of_mem_head? hc))).2
    have stop' : ∀ c, (List.replicate n '/').head? = some c → isSchemeChar c = false ∧ c ≠ ':' := by
      intro c hc
      rw [List.eq_of_mem_replicate (List.mem_of_mem_head? hc)]
      decide
    -- the same characters are the URL and what the parser cuts off it, and its
    -- beginning and the slashes behind it
    have whole : scheme? (cleanStart cs ++ List.replicate n '/') =
        (scheme? (cleanStart cs)).map fun read => (read.1, read.2 ++ List.replicate n '/') :=
      scheme?_append stop'
    rw [← slashes, ← counted, scheme?_append stop, read] at whole
    obtain ⟨⟨scheme', rest⟩, here, same⟩ := Option.map_eq_some_iff.mp whole.symm
    obtain ⟨rfl, behind⟩ := Prod.mk.inj same
    refine ⟨scheme', rest, here, fun special => ?_⟩
    obtain ⟨c, hc, other⟩ := hosted_of_ofParts h special
    have there : c ∈ rest ++ List.replicate n '/' := behind ▸ List.mem_append_left ws hc
    rcases List.mem_append.mp there with front | slash
    · exact ⟨c, front, other⟩
    · rw [List.eq_of_mem_replicate slash] at other
      cases other

theorem Begins.scheme?_clean (begins : Begins cs scheme rest) (path : IsPath t)
    (chars : s.toList = cs ++ t) : scheme? (clean s) = some (scheme, rest ++ t) := by
  have stop : ∀ c, t.head? = some c → isSchemeChar c = false ∧ c ≠ ':' := by
    obtain ⟨rest, rfl, -⟩ := path.eq_cons
    intro c hc
    obtain rfl := Option.some.inj hc
    decide
  rw [clean_append path chars, scheme?_append stop, begins.read]
  rfl

theorem Begins.ofText_append (begins : Begins cs scheme rest) (path : IsPath t)
    (chars : s.toList = cs ++ t) : ofText s = ofParts scheme (rest ++ t) := by
  rw [ofText_eq, begins.scheme?_clean path chars]

/-- **Whether the longer text is read does not depend on the path.** -/
theorem Begins.isOk_ofText_append {s' : String} {t' : List Char} (begins : Begins cs scheme rest)
    (path : IsPath t) (path' : IsPath t') (chars : s.toList = cs ++ t)
    (chars' : s'.toList = cs ++ t') : (ofText s).isOk = (ofText s').isOk := by
  rw [begins.ofText_append path chars, begins.ofText_append path' chars',
    isOk_ofParts_append begins.hosted path, isOk_ofParts_append begins.hosted path']

/-- The beginning of a URL ends so that what is written behind it is read for
    itself. -/
def EndsClear (cs : List Char) : Prop := ∀ c, cs.getLast? = some c →
  isControlOrSpace c = false ∧ isSlash c = false ∧ c ≠ '@'

theorem Begins.getLast?_eq (begins : Begins cs scheme rest) (clear : EndsClear cs) {c : Char}
    (last : rest.getLast? = some c) : cs.getLast? = some c := by
  obtain ⟨front, parts⟩ := suffix_of_scheme? begins.read
  have counted : (cleanStart cs).getLast? = some c := by
    rw [← parts, List.getLast?_append, last]
    rfl
  cases ends : cs.getLast? with
  | none =>
    rw [List.getLast?_eq_none_iff.mp ends] at counted
    cases counted
  | some d => exact (getLast?_cleanStart ends (clear d ends).1).symm.trans counted

theorem Begins.closed (begins : Begins cs scheme rest) (clear : EndsClear cs) : Closed rest := by
  rintro c rfl
  exact (clear c (begins.getLast?_eq clear rfl)).2.1

/-- **A URL with a path behind it has the scheme, host and port of the URL.** -/
theorem Begins.ofText_eq_of_endsClear {n : Nat} (begins : Begins cs scheme rest)
    (clear : EndsClear cs) (chars : base.toList = cs ++ List.replicate n '/') (path : IsPath t)
    (chars' : s.toList = cs ++ t) : ofText s = ofText base := by
  have closed := begins.closed clear
  rw [begins.ofText_append path chars', ofParts_append begins.hosted closed path]
  cases n with
  | zero =>
    rw [List.replicate_zero, List.append_nil] at chars
    have counted : clean base = cleanStart cs := by
      rw [clean_eq_cleanStart, chars]
      intro c hc
      exact (clear c (chars ▸ hc)).1
    rw [ofText_eq, counted, begins.read]
    refine ofParts_append_slash begins.hosted closed fun ends => ?_
    exact (clear '@' (begins.getLast?_eq clear ends)).2.2 rfl
  | succ n =>
    rw [begins.ofText_append (.slashes n) chars, ofParts_append begins.hosted closed (.slashes n)]

end Texts

/-! ## 4. Where the path stands -/

/-- The path of a URL as it is written, its steps `.` and `..` not taken. -/
def pathText? (s : String) : Option (List Char) :=
  (scheme? (clean s)).map fun parts => (behindAuthority parts.1 parts.2).takeWhile isPathInner

section Written

variable {s : String} {scheme : String} {cs rest : List Char} {c d : Char}

theorem mem_of_mem_clean (h : c ∈ clean s) : c ∈ s.toList := by
  obtain ⟨ws, counted, -⟩ := exists_clean_append s
  have start : c ∈ cleanStart s.toList := counted ▸ List.mem_append_left ws h
  exact (List.dropWhile_suffix _).mem (List.mem_filter.mp start).1

/-- **What is written behind a URL is the end of its path**, when it has no query
    and no fragment. -/
theorem Begins.suffix_pathText? {behind : List Char} (begins : Begins cs scheme behind)
    (clear : EndsClear cs) (path : IsPath ('/' :: d :: rest)) (single : isSlash d = false)
    (chars : s.toList = cs ++ '/' :: d :: rest) (inner : ∀ c ∈ s.toList, isPathInner c = true) :
    ∃ p, pathText? s = some p ∧ '/' :: d :: rest <:+ p := by
  have read := begins.scheme?_clean path chars
  refine ⟨behindAuthority scheme (behind ++ '/' :: d :: rest), ?_,
    suffix_behindAuthority begins.hosted (begins.closed clear) single⟩
  have whole : ∀ c ∈ behindAuthority scheme (behind ++ '/' :: d :: rest), isPathInner c = true :=
    fun c hc => inner c (mem_of_mem_clean
      ((suffix_of_scheme? read).mem ((behindAuthority_suffix _ _).mem hc)))
  rw [pathText?, read, Option.map_some, List.takeWhile_eq_self_iff.mpr whole]

end Written

end Url

end McpFleet
