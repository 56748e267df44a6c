/-
  File:      McpFleet/Proofs/Url/Parts.lean
  Subject:   A path behind the scheme of a URL, read part by part.

  A path of letters, digits and slashes is read the same behind every authority:
  it ends the authority, and it holds no step, no drive, no query and no
  fragment. Only where a URL has one slash and no host does a path change what
  stands before it: its first slash makes the second, and its first piece the
  host.

  * `IsPath`: the paths that this is about.
  * `readAuthority_append`, `fileHost?_append`, `ofOther_append`: the three kinds
    of schemes.
  * **`ofParts_append`**, `ofParts_append_slash`: together.
  * **`isOk_ofParts_append`**: a lone slash changes what is read, not whether it
    is read.
  * `suffix_behindAuthority`: the path is the end of what stands behind the
    authority.
-/
import McpFleet.Proofs.Checks
import McpFleet.Proofs.Text
import McpFleet.Url

namespace McpFleet

namespace Url

/-! ## 1. Paths -/

/-- Characters that stand for themselves wherever in a path they are. -/
def isPathChar (c : Char) : Bool := Text.isWordChar c || c == '/'

/-- A path that can be written behind any URL: slashes alone, or pieces of
    letters, digits, `_` and `-`. Where the URL ends in a slash of its own, the
    first piece may be taken for a host. -/
inductive IsPath : List Char → Prop where
  | slashes (n : Nat) : IsPath (List.replicate (n + 1) '/')
  | pieces {first rest : List Char} (nonempty : first ≠ [])
      (word : ∀ c ∈ first, Text.isWordChar c = true) (host : (specialHost first).isOk = true)
      (stop : ∀ c, rest.head? = some c → c = '/') (chars : ∀ c ∈ rest, isPathChar c = true) :
      IsPath ('/' :: (first ++ rest))

/-- The text behind a scheme is no slash alone, which together with a path would
    begin an authority. -/
def Closed (rest : List Char) : Prop := ∀ c, rest = [c] → isSlash c = false

/-- Controls and blanks are no characters of a path or of a scheme. -/
theorem apart_of_isControlOrSpace {c : Char} (hc : isControlOrSpace c = true) :
    isPathChar c = false ∧ isSchemeChar c = false ∧ c ≠ ':' := by
  have all : ∀ m ∈ List.range 33, isPathChar (Char.ofNat m) = false ∧
      isSchemeChar (Char.ofNat m) = false ∧ Char.ofNat m ≠ ':' := by decide
  rw [← Char.ofNat_toNat c]
  exact all c.toNat (List.mem_range.mpr (Nat.lt_succ_of_le (of_decide_eq_true hc)))

theorem isControlOrSpace_of_isPathChar {c : Char} (hc : isPathChar c = true) :
    isControlOrSpace c = false := by
  refine Bool.eq_false_iff.mpr fun control => ?_
  rw [(apart_of_isControlOrSpace control).1] at hc
  cases hc

/-- Characters that mean something in a URL are no characters of a path. -/
theorem ne_of_isPathChar {c d : Char} (hc : isPathChar c = true) (hd : isPathChar d = false) :
    c ≠ d := by
  rintro rfl
  rw [hc] at hd
  cases hd

theorem isPathChar_of_isWordChar {c : Char} (hc : Text.isWordChar c = true) :
    isPathChar c = true :=
  Bool.or_eq_true_iff.mpr (.inl hc)

theorem isTabOrLineEnd_of_isPathChar {c : Char} (hc : isPathChar c = true) :
    isTabOrLineEnd c = false := by
  have tab := ne_of_isPathChar hc (d := '\t') (by decide)
  have line := ne_of_isPathChar hc (d := '\n') (by decide)
  have back := ne_of_isPathChar hc (d := '\r') (by decide)
  simp [isTabOrLineEnd, tab, line, back]

/-- Among the characters of a path only the slash ends an authority. -/
theorem isPathStart_of_isPathChar {special : Bool} {c : Char} (hc : isPathChar c = true) :
    isPathStart special c = (c == '/') := by
  have query := ne_of_isPathChar hc (d := '?') (by decide)
  have fragment := ne_of_isPathChar hc (d := '#') (by decide)
  have back := ne_of_isPathChar hc (d := '\\') (by decide)
  simp only [isPathStart, beq_false_of_ne query, beq_false_of_ne fragment, beq_false_of_ne back,
    Bool.and_false, Bool.or_false]

theorem isSlash_of_isWordChar {c : Char} (hc : Text.isWordChar c = true) : isSlash c = false := by
  have back := ne_of_isPathChar (isPathChar_of_isWordChar hc) (d := '\\') (by decide)
  have slash : c ≠ '/' := by
    rintro rfl
    cases hc
  rw [isSlash, beq_false_of_ne slash, beq_false_of_ne back, Bool.or_self]

theorem ne_of_isSlash {c : Char} (h : isSlash c = false) : c ≠ '/' := by
  rintro rfl
  cases h

namespace IsPath

variable {t : List Char}

theorem eq_cons (path : IsPath t) : ∃ rest, t = '/' :: rest ∧ ∀ c ∈ rest, isPathChar c = true := by
  cases path with
  | slashes n =>
    refine ⟨List.replicate n '/', rfl, fun c hc => ?_⟩
    rw [List.eq_of_mem_replicate hc]
    decide
  | @pieces first rest nonempty word host stop chars =>
    refine ⟨first ++ rest, rfl, fun c hc => ?_⟩
    rcases List.mem_append.mp hc with front | back
    · exact isPathChar_of_isWordChar (word c front)
    · exact chars c back

theorem chars (path : IsPath t) : ∀ c ∈ t, isPathChar c = true := by
  obtain ⟨rest, rfl, chars⟩ := path.eq_cons
  exact List.forall_mem_cons.mpr ⟨by decide, chars⟩

theorem ne_nil (path : IsPath t) : t ≠ [] := by
  obtain ⟨rest, rfl, -⟩ := path.eq_cons
  exact List.cons_ne_nil _ _

theorem head (path : IsPath t) {p : Char → Bool} (slash : p '/' = false) :
    ∀ c, t.head? = some c → p c = false := by
  obtain ⟨rest, rfl, -⟩ := path.eq_cons
  intro c hc
  obtain rfl := Option.some.inj hc
  exact slash

theorem single : IsPath ['/'] := slashes 0

end IsPath

/-! ## 2. Authorities -/

section Authority

variable {scheme : String} {special : Bool} {cs t : List Char}

/-- A slash ends every authority. -/
theorem not_isPathStart_slash : (!isPathStart special '/') = false := by simp [isPathStart]

theorem stop_of_slash {rest : List Char} (slash : ∀ c, rest.head? = some c → c = '/') :
    ∀ c, rest.head? = some c → (!isPathStart special c) = false := by
  intro c hc
  rw [slash c hc]
  exact not_isPathStart_slash

theorem IsPath.stop (path : IsPath t) : ∀ c, t.head? = some c → (!isPathStart special c) = false :=
  path.head not_isPathStart_slash

/-- Slashes alone hold no authority. -/
theorem takeWhile_slashes (n : Nat) :
    (List.replicate n '/').takeWhile (fun c => !isPathStart special c) = [] := by
  cases n with
  | zero => rfl
  | succ n => simp [List.replicate_succ, isPathStart]

/-- The first piece of a path, read as an authority. -/
theorem takeWhile_pieces {first rest : List Char}
    (word : ∀ c ∈ first, Text.isWordChar c = true) (stop : ∀ c, rest.head? = some c → c = '/') :
    (first ++ rest).takeWhile (fun c => !isPathStart special c) = first := by
  rw [Text.takeWhile_append_of_head (stop_of_slash stop)]
  refine List.takeWhile_eq_self_iff.mpr fun c hc => ?_
  rw [isPathStart_of_isPathChar (isPathChar_of_isWordChar (word c hc)),
    beq_false_of_ne (ne_of_isSlash (isSlash_of_isWordChar (word c hc)))]
  rfl

/-- **An authority is read alone**: from what stands behind it only counts
    whether there is something. -/
theorem readAuthority_append (path : IsPath t) :
    readAuthority scheme special (cs ++ t) = readAuthority scheme special (cs ++ ['/']) := by
  have more {t : List Char} (path : IsPath t) :
      (cs.dropWhile (fun c => !isPathStart special c) ++ t).isEmpty = false :=
    List.isEmpty_eq_false_iff.mpr (List.append_ne_nil_of_right_ne_nil _ path.ne_nil)
  unfold readAuthority
  simp only [Text.takeWhile_append_of_head path.stop, Text.dropWhile_append_of_head path.stop,
    Text.takeWhile_append_of_head IsPath.single.stop, more path, more .single,
    Text.dropWhile_append_of_head IsPath.single.stop]

/-- Only a lone `@` has nothing on either side. -/
theorem eq_singleton_of_splitCredentials (h : splitCredentials cs = (some [], [])) :
    cs = ['@'] := by
  unfold splitCredentials at h
  split at h
  · rename_i found
    obtain ⟨front, back⟩ := Prod.mk.inj h
    rw [back] at front
    have short : cs.length ≤ 1 := by
      rcases List.take_eq_nil_iff.mp (Option.some.inj front) with none | none
      · exact Nat.sub_eq_zero_iff_le.mp none
      · rw [none]
        exact Nat.zero_le 1
    have found : '@' ∈ cs := List.contains_iff_mem.mp found
    match cs, short with
    | [c], _ => rw [List.mem_singleton.mp found]
  · cases (Prod.mk.inj h).1

/-- An authority that does not end in `@` is read the same with nothing behind
    it. -/
theorem readAuthority_append_slash (last : cs.getLast? ≠ some '@') :
    readAuthority scheme special (cs ++ ['/']) = readAuthority scheme special cs := by
  have parts : cs.takeWhile (fun c => !isPathStart special c) ++
    cs.dropWhile (fun c => !isPathStart special c) = cs := List.takeWhile_append_dropWhile
  unfold readAuthority
  simp only [Text.takeWhile_append_of_head IsPath.single.stop,
    Text.dropWhile_append_of_head IsPath.single.stop]
  cases behind : cs.dropWhile fun c => !isPathStart special c with
  | cons c rest => rfl
  | nil =>
    -- nothing stands behind the authority, which only a lone `@` notices
    rw [behind, List.append_nil] at parts
    rw [parts]
    cases split : splitCredentials cs with
    | mk credentials hostPort =>
      have inhabited : ¬ (credentials = some [] ∧ hostPort.isEmpty = true) := by
        rintro ⟨rfl, none⟩
        obtain rfl := List.isEmpty_iff.mp none
        rw [eq_singleton_of_splitCredentials split] at last
        exact last rfl
      simp only [← and_assoc, inhabited, false_and]

end Authority

/-! ## 3. Files -/

section Files

variable {segment : List Char} {before front back : List (List Char)} {cs t : List Char}

theorem readDots_of_isPathChar (chars : ∀ c ∈ segment, isPathChar c = true) :
    readDots segment = segment := by
  induction segment with
  | nil => rw [readDots]
  | cons c cs ih =>
    obtain ⟨first, others⟩ := List.forall_mem_cons.mp chars
    have percent := ne_of_isPathChar first (d := '%') (by decide)
    rw [readDots, ih others]
    rintro _ _ rfl
    exact absurd rfl percent

theorem isDriveLetter_of_isPathChar (chars : ∀ c ∈ segment, isPathChar c = true) :
    isDriveLetter segment = false := by
  unfold isDriveLetter
  split
  · rename_i c d
    have last : isPathChar d = true := chars d (List.mem_cons_of_mem c List.mem_cons_self)
    have colon := ne_of_isPathChar last (d := ':') (by decide)
    have bar := ne_of_isPathChar last (d := '|') (by decide)
    rw [beq_false_of_ne colon, beq_false_of_ne bar, Bool.or_self, Bool.and_false]
  · rfl

/-- Segments of a path are neither steps nor drives. -/
theorem reachesDrive_of_isPathChar (chars : ∀ s ∈ back, ∀ c ∈ s, isPathChar c = true) :
    reachesDrive before back = false := by
  induction back generalizing before with
  | nil => rfl
  | cons s rest ih =>
    obtain ⟨first, others⟩ := List.forall_mem_cons.mp chars
    have noDot : '.' ∉ s := fun h => ne_of_isPathChar (first '.' h) (by decide) rfl
    have noDrive : isDriveLetter s = false := isDriveLetter_of_isPathChar first
    have noStep : s ≠ ['.', '.'] ∧ s ≠ ['.'] := by
      constructor <;> rintro rfl <;> exact noDot List.mem_cons_self
    rw [reachesDrive, readDots_of_isPathChar first, if_neg noStep.1, if_neg noStep.2, noDrive,
      Bool.and_false, Bool.false_or]
    exact ih others

theorem reachesDrive_append (chars : ∀ s ∈ back, ∀ c ∈ s, isPathChar c = true) :
    reachesDrive before (front ++ back) = reachesDrive before front := by
  induction front generalizing before with
  | nil => exact reachesDrive_of_isPathChar chars
  | cons s front ih =>
    rw [List.cons_append, reachesDrive, reachesDrive]
    simp only [ih]

/-- Whether a path goes on at a character. -/
def isPathInner (c : Char) : Bool := c ≠ '?' && c ≠ '#'

/-- A slash of either kind is a slash in a path. -/
def slashOf (c : Char) : Char := if c = '\\' then '/' else c

theorem segments_eq (cs : List Char) :
    segments cs = match (cs.takeWhile isPathInner).map slashOf with
      | '/' :: path => Text.splitOn '/' path
      | path => Text.splitOn '/' path := rfl

theorem isPathInner_iff {c : Char} : isPathInner c = true ↔ c ≠ '?' ∧ c ≠ '#' := by
  simp [isPathInner]

theorem isPathInner_of_isPathChar {c : Char} (hc : isPathChar c = true) : isPathInner c = true :=
  isPathInner_iff.mpr ⟨ne_of_isPathChar hc (by decide), ne_of_isPathChar hc (by decide)⟩

theorem map_slashOf_of_isPathChar (chars : ∀ c ∈ segment, isPathChar c = true) :
    segment.map slashOf = segment := by
  refine (List.map_congr_left fun c hc => ?_).trans (List.map_id segment)
  exact if_neg (ne_of_isPathChar (chars c hc) (by decide))

/-- What a path begins with behind an authority is a slash. -/
theorem slashOf_of_isPathStart {c : Char} (start : isPathStart true c = true)
    (inner : isPathInner c = true) : slashOf c = '/' := by
  have inner := isPathInner_iff.mp inner
  simp only [isPathStart, Bool.or_eq_true, Bool.true_and, beq_iff_eq] at start
  obtain ((slash | query) | fragment) | back := start
  · rw [slash]; rfl
  · exact absurd query inner.1
  · exact absurd fragment inner.2
  · rw [back]; rfl

/-- **No path makes a drive of what stands before it.** -/
theorem reachesDrive_segments_append (start : ∀ c, cs.head? = some c → isPathStart true c = true)
    (path : IsPath t) : reachesDrive [] (segments (cs ++ t)) = reachesDrive [] (segments cs) := by
  obtain ⟨rest, rfl, chars⟩ := path.eq_cons
  have pieces : ∀ s ∈ Text.splitOn '/' rest, ∀ c ∈ s, isPathChar c = true :=
    fun s hs c hc => chars c (Text.mem_of_mem_splitOn hs hc)
  have kept : ('/' :: rest).takeWhile isPathInner = '/' :: rest :=
    List.takeWhile_eq_self_iff.mpr fun c hc => isPathInner_of_isPathChar (path.chars c hc)
  have slashes : ('/' :: rest).map slashOf = '/' :: rest := map_slashOf_of_isPathChar path.chars
  -- a query or fragment in front hides the whole path
  by_cases inner : ∀ c ∈ cs, isPathInner c = true
  · have whole : (cs ++ '/' :: rest).takeWhile isPathInner = cs ++ '/' :: rest := by
      rw [List.takeWhile_append_of_pos inner, kept]
    rw [segments_eq, segments_eq, whole, List.takeWhile_eq_self_iff.mpr inner, List.map_append,
      slashes]
    cases cs with
    | nil =>
      have empty : ∀ s ∈ Text.splitOn '/' [], ∀ c ∈ s, isPathChar c = true := by simp [Text.splitOn]
      exact (reachesDrive_of_isPathChar pieces).trans (reachesDrive_of_isPathChar empty).symm
    | cons c cs =>
      have slash : slashOf c = '/' :=
        slashOf_of_isPathStart (start c rfl) (inner c List.mem_cons_self)
      rw [List.map_cons, slash, List.cons_append]
      simp only [Text.splitOn_append, reachesDrive_append pieces]
  · have cut : (cs ++ '/' :: rest).takeWhile isPathInner = cs.takeWhile isPathInner := by
      rw [List.takeWhile_append, if_neg fun whole => inner ?_]
      exact List.takeWhile_eq_self_iff.mp ((List.takeWhile_prefix _).eq_of_length whole)
    rw [segments_eq, segments_eq, cut]

/-- A path alone has no host. -/
theorem fileHost?_path (path : IsPath t) : fileHost? t = .ok none := by
  cases path with
  | slashes n =>
    cases n with
    | zero => rfl
    | succ n =>
      simp only [List.replicate_succ, fileHost?, takeWhile_slashes, List.isEmpty_nil, Bool.true_or,
        if_true, ite_self]
  | @pieces first rest nonempty word host stop chars =>
    cases first with
    | nil => exact absurd rfl nonempty
    | cons d first =>
      have notSlash := isSlash_of_isWordChar (word d List.mem_cons_self)
      simp [fileHost?, notSlash]

/-- **A path changes nothing about the host of a file.** -/
theorem fileHost?_append (closed : Closed cs) (path : IsPath t) :
    fileHost? (cs ++ t) = fileHost? cs := by
  match cs with
  | [] => exact fileHost?_path path
  | [c] =>
    obtain ⟨rest, rfl, -⟩ := path.eq_cons
    simp [fileHost?, closed c rfl]
  | c :: d :: cs =>
    have start : ∀ c, (cs.dropWhile fun c => !isPathStart true c).head? = some c →
        isPathStart true c = true :=
      fun c hc => by simpa using Text.head?_dropWhile hc
    simp only [List.cons_append, fileHost?, Text.takeWhile_append_of_head path.stop,
      Text.dropWhile_append_of_head path.stop, reachesDrive_segments_append start path]

/-- Behind a lone slash the first piece of a path is the host. -/
theorem fileHost?_cons_path {c : Char} (slash : isSlash c = true) (path : IsPath t) :
    (fileHost? (c :: t)).isOk = true := by
  cases path with
  | slashes n =>
    simp only [List.replicate_succ, fileHost?, takeWhile_slashes, List.isEmpty_nil, Bool.true_or,
      if_true, ite_self]
    rfl
  | @pieces first rest nonempty word host stop chars =>
    obtain ⟨found, host⟩ := isOk_iff.mp host
    have other : isSlash '/' = true := rfl
    simp only [fileHost?, slash, other, Bool.and_self, if_true, takeWhile_pieces word stop, host,
      bind, Except.bind]
    split
    · rfl
    · split <;> rfl

end Files

/-! ## 4. Other schemes -/

section Others

variable {scheme : String} {cs t : List Char}

theorem readAuthority_slashes (n : Nat) :
    readAuthority scheme false (List.replicate n '/') = .ok ⟨scheme, none, none⟩ := by
  unfold readAuthority
  rw [takeWhile_slashes]
  rfl

theorem isForbiddenInHost_of_isWordChar {c : Char} (hc : Text.isWordChar c = true) :
    isForbiddenInHost c = false := by
  have counts := isControlOrSpace_of_isPathChar (isPathChar_of_isWordChar hc)
  have positive : 0x20 < c.toNat := Nat.lt_of_not_le (of_decide_eq_false counts)
  have zero : c.toNat ≠ 0 := by omega
  have listed : "\t\n\r #/:<>?@[\\]^|".toList.contains c = false := by
    have all : "\t\n\r #/:<>?@[\\]^|".toList.all (fun d => !Text.isWordChar d) = true := by decide
    refine Bool.eq_false_iff.mpr fun found => ?_
    have apart := List.all_eq_true.mp all c (List.contains_iff_mem.mp found)
    rw [hc] at apart
    cases apart
  rw [isForbiddenInHost, listed, beq_false_of_ne zero, Bool.or_self]

theorem splitPort_of_isWordChar (word : ∀ c ∈ cs, Text.isWordChar c = true) :
    splitPort false cs = (cs, []) := by
  induction cs with
  | nil => rfl
  | cons c cs ih =>
    obtain ⟨first, others⟩ := List.forall_mem_cons.mp word
    have colon := ne_of_isPathChar (isPathChar_of_isWordChar first) (d := ':') (by decide)
    have left := ne_of_isPathChar (isPathChar_of_isWordChar first) (d := '[') (by decide)
    rw [splitPort, if_neg fun both => colon both.1]
    simp only [left, if_false, ite_self, ih others]

theorem opaqueHost?_of_isWordChar (nonempty : cs ≠ [])
    (word : ∀ c ∈ cs, Text.isWordChar c = true) :
    opaqueHost? cs = .ok (some (.domain (String.ofList cs))) := by
  have free : bracketed? cs = none := by
    unfold bracketed?
    split
    · exact absurd (word '[' List.mem_cons_self) (by decide)
    · rfl
  have allowed : cs.any isForbiddenInHost = false :=
    List.any_eq_false.mpr fun c hc => by
      rw [isForbiddenInHost_of_isWordChar (word c hc)]
      decide
  unfold opaqueHost?
  rw [free]
  simp only [allowed, List.isEmpty_eq_false_iff.mpr nonempty, Bool.false_eq_true, if_false]

/-- Letters, digits, `_` and `-` are a host as they are written. -/
theorem readAuthority_pieces {first rest : List Char} (nonempty : first ≠ [])
    (word : ∀ c ∈ first, Text.isWordChar c = true) (stop : ∀ c, rest.head? = some c → c = '/') :
    readAuthority scheme false (first ++ rest) =
      .ok ⟨scheme, some (.domain (String.ofList first)), none⟩ := by
  have noUser : splitCredentials first = (none, first) := by
    refine if_neg fun found => ?_
    exact absurd (word '@' (List.contains_iff_mem.mp found)) (by decide)
  unfold readAuthority
  simp only [takeWhile_pieces word stop, noUser, splitPort_of_isWordChar word,
    opaqueHost?_of_isWordChar nonempty word]
  rfl

/-- A URL of another scheme: the text behind its colon. -/
def ofOther (scheme : String) (rest : List Char) : Except Error Url :=
  match rest with
  | '/' :: '/' :: rest => readAuthority scheme false rest
  | _ => .ok ⟨scheme, none, none⟩

theorem ofOther_of_ne (other : ∀ rest, cs ≠ '/' :: '/' :: rest) :
    ofOther scheme cs = .ok ⟨scheme, none, none⟩ := by
  unfold ofOther
  split
  · exact absurd rfl (other _)
  · rfl

/-- A path alone has no host. -/
theorem ofOther_path (path : IsPath t) : ofOther scheme t = .ok ⟨scheme, none, none⟩ := by
  cases path with
  | slashes n =>
    cases n with
    | zero => rfl
    | succ n => exact readAuthority_slashes n
  | @pieces first rest nonempty word host stop chars =>
    cases first with
    | nil => exact absurd rfl nonempty
    | cons d first =>
      refine ofOther_of_ne fun rest same => ?_
      obtain ⟨slash, -⟩ := List.cons.inj (List.cons.inj same).2
      exact ne_of_isSlash (isSlash_of_isWordChar (word d List.mem_cons_self)) slash

/-- A path makes no host where there are no two slashes and not one alone. -/
theorem ofOther_append_of_ne (closed : Closed cs) (other : ∀ rest, cs ≠ '/' :: '/' :: rest)
    (path : IsPath t) : ofOther scheme (cs ++ t) = .ok ⟨scheme, none, none⟩ := by
  match cs with
  | [] => exact ofOther_path path
  | [c] =>
    exact ofOther_of_ne fun rest same => ne_of_isSlash (closed c rfl) (List.cons.inj same).1
  | c :: d :: cs =>
    refine ofOther_of_ne fun rest same => other cs ?_
    obtain ⟨first, others⟩ := List.cons.inj same
    rw [first, (List.cons.inj others).1]

theorem ofOther_append (closed : Closed cs) (path : IsPath t) :
    ofOther scheme (cs ++ t) = ofOther scheme (cs ++ ['/']) := by
  by_cases two : ∃ rest, cs = '/' :: '/' :: rest
  · obtain ⟨rest, rfl⟩ := two
    exact readAuthority_append path
  · have other : ∀ rest, cs ≠ '/' :: '/' :: rest := fun rest same => two ⟨rest, same⟩
    rw [ofOther_append_of_ne closed other path, ofOther_append_of_ne closed other .single]

theorem ofOther_append_slash (closed : Closed cs) (last : cs.getLast? ≠ some '@') :
    ofOther scheme (cs ++ ['/']) = ofOther scheme cs := by
  by_cases two : ∃ rest, cs = '/' :: '/' :: rest
  · obtain ⟨rest, rfl⟩ := two
    refine readAuthority_append_slash fun ends => last ?_
    rw [List.getLast?_cons, List.getLast?_cons, ends]
    rfl
  · have other : ∀ rest, cs ≠ '/' :: '/' :: rest := fun rest same => two ⟨rest, same⟩
    rw [ofOther_append_of_ne closed other .single, ofOther_of_ne other]

/-- Behind a lone slash the first piece of a path is the host. -/
theorem isOk_ofOther_cons_path {c : Char} (path : IsPath t) :
    (ofOther scheme (c :: t)).isOk = true := by
  by_cases slash : c = '/'
  · subst slash
    cases path with
    | slashes n => exact congrArg Except.isOk (readAuthority_slashes n)
    | pieces nonempty word host stop chars =>
      exact congrArg Except.isOk (readAuthority_pieces nonempty word stop)
  · exact congrArg Except.isOk (ofOther_of_ne fun rest same => slash (List.cons.inj same).1)

end Others

/-! ## 5. URLs -/

/-- The URL of a scheme and the text behind its colon. -/
def ofParts (scheme : String) (rest : List Char) : Except Error Url :=
  if scheme = "file" then (fileHost? rest).map fun host => ⟨scheme, host, none⟩
  else if isSpecial scheme then readAuthority scheme true (rest.dropWhile isSlash)
  else ofOther scheme rest

theorem ofText_eq (s : String) : ofText s = match scheme? (clean s) with
    | none => .error .noScheme
    | some (scheme, rest) => ofParts scheme rest := rfl

section Parts

variable {scheme : String} {cs t : List Char}

/-- The text behind a special scheme is more than slashes. -/
def Hosted (scheme : String) (rest : List Char) : Prop :=
  isSpecial scheme = true → ∃ c ∈ rest, isSlash c = false

theorem hosted_of_ofParts {u : Url} (h : ofParts scheme cs = .ok u) : Hosted scheme cs := by
  intro special
  by_contra none
  have slashes : cs.dropWhile isSlash = [] :=
    List.dropWhile_eq_nil_iff.mpr fun c hc =>
      Bool.of_not_eq_false fun other => none ⟨c, hc, other⟩
  have other : scheme ≠ "file" := by
    rintro rfl
    cases special
  unfold ofParts at h
  rw [if_neg other, if_pos special, slashes] at h
  cases h

theorem dropWhile_isSlash_append (found : ∃ c ∈ cs, isSlash c = false) (t : List Char) :
    (cs ++ t).dropWhile isSlash = cs.dropWhile isSlash ++ t := by
  obtain ⟨c, hc, other⟩ := found
  have more : (cs.dropWhile isSlash).isEmpty = false := by
    refine List.isEmpty_eq_false_iff.mpr fun none => ?_
    rw [List.dropWhile_eq_nil_iff.mp none c hc] at other
    cases other
  rw [List.dropWhile_append, more]
  rfl

/-- **A path changes nothing about the parts before it**, but that there is
    something behind them. -/
theorem ofParts_append (hosted : Hosted scheme cs) (closed : Closed cs) (path : IsPath t) :
    ofParts scheme (cs ++ t) = ofParts scheme (cs ++ ['/']) := by
  unfold ofParts
  split
  · rw [fileHost?_append closed path, fileHost?_append closed .single]
  · split
    · rename_i special
      rw [dropWhile_isSlash_append (hosted special), dropWhile_isSlash_append (hosted special)]
      exact readAuthority_append path
    · exact ofOther_append closed path

theorem ofParts_append_slash (hosted : Hosted scheme cs) (closed : Closed cs)
    (last : cs.getLast? ≠ some '@') : ofParts scheme (cs ++ ['/']) = ofParts scheme cs := by
  unfold ofParts
  split
  · rw [fileHost?_append closed .single]
  · split
    · rename_i special
      rw [dropWhile_isSlash_append (hosted special)]
      refine readAuthority_append_slash fun ends => last ?_
      obtain ⟨front, parts⟩ := List.dropWhile_suffix isSlash (l := cs)
      rw [← parts, List.getLast?_append, ends]
      rfl
    · exact ofOther_append_slash closed last

/-- Behind a lone slash a path is always read, if the scheme is not special. -/
theorem isOk_ofParts_cons_path {c : Char} (other : isSpecial scheme = false)
    (slash : isSlash c = true) (path : IsPath t) : (ofParts scheme (c :: t)).isOk = true := by
  unfold ofParts
  split
  · obtain ⟨host, found⟩ := isOk_iff.mp (fileHost?_cons_path slash path)
    rw [found]
    rfl
  · rw [if_neg (Bool.eq_false_iff.mp other)]
    exact isOk_ofOther_cons_path path

/-- **Whether a URL with a path behind it is read does not depend on the path.** -/
theorem isOk_ofParts_append (hosted : Hosted scheme cs) (path : IsPath t) :
    (ofParts scheme (cs ++ t)).isOk = (ofParts scheme (cs ++ ['/'])).isOk := by
  by_cases closed : Closed cs
  · rw [ofParts_append hosted closed path]
  · -- behind a lone slash the path has the host, and its first piece can be one
    obtain ⟨c, rfl, slash⟩ : ∃ c, cs = [c] ∧ isSlash c = true := by
      simpa [Closed] using closed
    have other : isSpecial scheme = false := by
      refine Bool.eq_false_iff.mpr fun special => ?_
      obtain ⟨d, hd, different⟩ := hosted special
      rw [List.mem_singleton.mp hd, slash] at different
      cases different
    exact (isOk_ofParts_cons_path other slash path).trans
      (isOk_ofParts_cons_path other slash .single).symm

end Parts

/-! ## 6. Behind an authority -/

/-- What stands behind the host of a file; a drive belongs to the path. -/
def behindFileHost : List Char → List Char
  | c :: d :: cs =>
    if isSlash c && isSlash d then
      if isDriveLetter (cs.takeWhile fun c => !isPathStart true c) then cs
      else cs.dropWhile fun c => !isPathStart true c
    else c :: d :: cs
  | cs => cs

/-- What stands behind the host of a scheme that is not special. -/
def behindOther : List Char → List Char
  | '/' :: '/' :: cs => cs.dropWhile fun c => !isPathStart false c
  | cs => cs

/-- What stands behind the authority of a URL: its path, query and fragment. -/
def behindAuthority (scheme : String) (rest : List Char) : List Char :=
  if scheme = "file" then behindFileHost rest
  else if isSpecial scheme then
    (rest.dropWhile isSlash).dropWhile fun c => !isPathStart true c
  else behindOther rest

section Places

variable {scheme : String} {cs rest : List Char} {c d : Char}

theorem head_slash : ∀ e, ('/' :: d :: rest).head? = some e → e = '/' :=
  fun _ he => (Option.some.inj he).symm

theorem behindFileHost_of_not_isSlash (h : isSlash c = false ∨ isSlash d = false) :
    behindFileHost (c :: d :: cs) = c :: d :: cs := by
  unfold behindFileHost
  rcases h with h | h <;> simp [h]

theorem behindOther_of_ne (other : ∀ rest, cs ≠ '/' :: '/' :: rest) : behindOther cs = cs := by
  unfold behindOther
  split
  · exact absurd rfl (other _)
  · rfl

/-- What begins with one slash stays behind the host of a file. -/
theorem suffix_behindFileHost (closed : Closed cs) (single : isSlash d = false) :
    '/' :: d :: rest <:+ behindFileHost (cs ++ '/' :: d :: rest) := by
  match cs with
  | [] => exact ⟨[], (behindFileHost_of_not_isSlash (.inr single)).symm⟩
  | [c] =>
    rw [List.singleton_append, behindFileHost_of_not_isSlash (.inl (closed c rfl))]
    exact List.suffix_cons _ _
  | c :: e :: cs =>
    rw [List.cons_append, List.cons_append, behindFileHost]
    split
    · split
      · exact List.suffix_append _ _
      · rw [Text.dropWhile_append_of_head (stop_of_slash head_slash)]
        exact List.suffix_append _ _
    · exact List.suffix_append (c :: e :: cs) _

theorem suffix_behindOther (closed : Closed cs) (single : isSlash d = false) :
    '/' :: d :: rest <:+ behindOther (cs ++ '/' :: d :: rest) := by
  by_cases two : ∃ front, cs = '/' :: '/' :: front
  · obtain ⟨front, rfl⟩ := two
    rw [List.cons_append, List.cons_append, behindOther,
      Text.dropWhile_append_of_head (stop_of_slash head_slash)]
    exact List.suffix_append _ _
  · refine behindOther_of_ne (fun behind same => ?_) ▸ List.suffix_append _ _
    match cs with
    | [] => exact ne_of_isSlash single (List.cons.inj (List.cons.inj same).2).1
    | [c] => exact ne_of_isSlash (closed c rfl) (List.cons.inj same).1
    | c :: e :: cs =>
      obtain ⟨first, others⟩ := List.cons.inj same
      exact two ⟨cs, by rw [first, (List.cons.inj others).1]⟩

/-- **A path that is written behind a URL is the end of its path.** -/
theorem suffix_behindAuthority (hosted : Hosted scheme cs) (closed : Closed cs)
    (single : isSlash d = false) :
    '/' :: d :: rest <:+ behindAuthority scheme (cs ++ '/' :: d :: rest) := by
  unfold behindAuthority
  split
  · exact suffix_behindFileHost closed single
  · split
    · rename_i special
      rw [dropWhile_isSlash_append (hosted special),
        Text.dropWhile_append_of_head (stop_of_slash head_slash)]
      exact List.suffix_append _ _
    · exact suffix_behindOther closed single

theorem behindFileHost_suffix (cs : List Char) : behindFileHost cs <:+ cs := by
  unfold behindFileHost
  split
  · rename_i c d cs
    have behind : cs <:+ c :: d :: cs := (List.suffix_cons d cs).trans (List.suffix_cons c _)
    split
    · split
      · exact behind
      · exact (List.dropWhile_suffix _).trans behind
    · exact List.suffix_refl _
  · exact List.suffix_refl _

theorem behindOther_suffix (cs : List Char) : behindOther cs <:+ cs := by
  unfold behindOther
  split
  · rename_i cs
    have behind : cs <:+ '/' :: '/' :: cs :=
      (List.suffix_cons '/' cs).trans (List.suffix_cons '/' _)
    exact (List.dropWhile_suffix _).trans behind
  · exact List.suffix_refl _

theorem behindAuthority_suffix (scheme : String) (cs : List Char) :
    behindAuthority scheme cs <:+ cs := by
  unfold behindAuthority
  split
  · exact behindFileHost_suffix cs
  · split
    · exact (List.dropWhile_suffix _).trans (List.dropWhile_suffix _)
    · exact behindOther_suffix cs

end Places

end Url

end McpFleet
