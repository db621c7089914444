import Mathlib.Data.List.Infix
import Rteipc.Data.Scan
import Rteipc.Endpoint

namespace Rteipc

/-! URIs and what `rteipc_open` reads in them. -/

open Data

/-! ## Schemes -/

/-- A URI is divided at its first `://`. -/
structure Divides (uri scheme path : List UInt8) : Prop where
  whole : uri = scheme ++ ascii "://" ++ path
  first : ∀ earlier later, uri = earlier ++ ascii "://" ++ later → scheme.length ≤ earlier.length

/-- A URI with a scheme names an endpoint by the two, and one without a loopback. -/
def Names (uri : List UInt8) (type : EpType) (path : List UInt8) : Prop :=
  if strstr uri (ascii "://") then ∃ scheme, Divides uri scheme path ∧ protocolType scheme = some type
  else type = .loop ∧ path = uri

/-- The array `path` when the endpoint is opened. -/
def uriPath (uri : List UInt8) : CharArray 128 :=
  strncpy 128 (if strstr uri (ascii "://") then (scanUri uri).2 else uri)

theorem ascii_separator (path : List UInt8) : ascii "://" ++ path = 58 :: 47 :: 47 :: path := rfl

theorem protocolType_noColon {scheme : List UInt8} {type : EpType} (known : protocolType scheme = some type) :
    58 ∉ scheme ∧ scheme ≠ [] := by
  unfold protocolType at known
  split_ifs at known <;> subst scheme <;> decide

section Scheme

variable {scheme path : List UInt8}

theorem takeWhile_scheme (noColon : 58 ∉ scheme) : (scheme ++ ascii "://" ++ path).takeWhile (· ≠ 58) = scheme := by
  rw [List.append_assoc, ascii_separator, takeWhile_stop noColon]

theorem dropWhile_scheme (noColon : 58 ∉ scheme) :
    (scheme ++ ascii "://" ++ path).dropWhile (· ≠ 58) = ascii "://" ++ path := by
  rw [List.append_assoc, ascii_separator, dropWhile_stop noColon]

theorem divides_scheme (noColon : 58 ∉ scheme) : Divides (scheme ++ ascii "://" ++ path) scheme path := by
  refine ⟨rfl, fun earlier later same => ?_⟩
  by_contra shorter
  have before : scheme.take earlier.length = earlier := by
    have front := congrArg (List.take earlier.length) same
    rwa [List.append_assoc, List.append_assoc, List.take_append_of_le_length (by omega), List.take_left'] at front
    rfl
  have colon : scheme[earlier.length]? = some 58 := by
    have letter := congrArg (fun text => text[earlier.length]?) same
    simp only [List.append_assoc] at letter
    rw [List.getElem?_append_left (by omega), List.getElem?_append_right (Nat.le_refl _), Nat.sub_self] at letter
    exact letter
  exact noColon (List.mem_of_getElem? colon)

theorem scanUri_scheme (noColon : 58 ∉ scheme) (given : scheme ≠ []) :
    scanUri (scheme ++ ascii "://" ++ path) = (scheme, (path.take 99).takeWhile (· ≠ 10)) := by
  have separated : (ascii "://").isPrefixOf (ascii "://" ++ path) = true :=
    List.isPrefixOf_iff_prefix.mpr (List.prefix_append _ _)
  unfold scanUri
  simp only [takeWhile_scheme noColon, dropWhile_scheme noColon, separated, given, ne_eq, not_false_eq_true,
    decide_true, Bool.and_self, if_true]
  rfl

end Scheme

theorem scanUri_protocol (uri : List UInt8) : (scanUri uri).1 = uri.takeWhile (· ≠ 58) := by
  simp only [scanUri]
  split <;> rfl

theorem parseUri_name {uri : List UInt8} (plain : strstr uri (ascii "://") = false) :
    parseUri uri = some (.loop, uri.take 128) := by
  unfold parseUri
  simp only [plain, Bool.false_eq_true, if_false]

theorem parseUri_scheme {uri : List UInt8} (separated : strstr uri (ascii "://") = true) :
    parseUri uri = (protocolType (uri.takeWhile (· ≠ 58))).map (·, (scanUri uri).2) := by
  rw [← scanUri_protocol]
  unfold parseUri
  simp only [separated, if_true]

/-- A text is a string in an array it leaves room in for a NUL. -/
theorem strncpy_terminated_iff {size : Nat} {text : List UInt8} (noNul : 0 ∉ text) :
    0 ∈ (strncpy size text).bytes ↔ text.length < size := by
  have copied : 0 ∉ text.take size := fun member => noNul (List.mem_of_mem_take member)
  simp only [strncpy, List.mem_append, copied, List.mem_replicate, false_or, and_true]
  omega

/-! ## Opening as written -/

/-- What is opened is what the URI names, and `path` holds that as a string. -/
structure ReadsExactly (uri : List UInt8) (type : EpType) (path : List UInt8) : Prop where
  named : Names uri type path
  terminated : 0 ∈ (uriPath uri).bytes
  text : (uriPath uri).text = path

/-- Behind a known scheme, `://` follows at once and then at most 99 characters
of one line; a name without a scheme leaves room for a NUL. -/
def UriClear (uri : List UInt8) : Prop :=
  if strstr uri (ascii "://") then
    ∀ type, protocolType (uri.takeWhile (· ≠ 58)) = some type →
      ∃ path, uri = uri.takeWhile (· ≠ 58) ++ ascii "://" ++ path ∧ path.length ≤ 99 ∧ 10 ∉ path
  else uri.length < 128

section Exact

variable {uri : List UInt8} {type : EpType}

theorem readsExactly_name_iff (noNul : 0 ∉ uri) (plain : strstr uri (ascii "://") = false) :
    ReadsExactly uri .loop (uri.take 128) ↔ uri.length < 128 := by
  have array : uriPath uri = strncpy 128 uri := by
    simp only [uriPath, plain, Bool.false_eq_true, if_false]
  constructor
  · intro reads
    have terminated := reads.terminated
    rwa [array, strncpy_terminated_iff noNul] at terminated
  · intro short
    rw [List.take_of_length_le (by omega)]
    refine ⟨?_, ?_, ?_⟩
    · simp [Names, plain]
    · rwa [array, strncpy_terminated_iff noNul]
    · rw [array, strncpy_text noNul short]

theorem readsExactly_scheme_iff (noNul : 0 ∉ uri) (separated : strstr uri (ascii "://") = true)
    (known : protocolType (uri.takeWhile (· ≠ 58)) = some type) :
    ReadsExactly uri type (scanUri uri).2 ↔
      ∃ path, uri = uri.takeWhile (· ≠ 58) ++ ascii "://" ++ path ∧ path.length ≤ 99 ∧ 10 ∉ path := by
  constructor
  · intro reads
    have named := reads.named
    rw [Names, if_pos separated] at named
    obtain ⟨scheme, divides, type⟩ := named
    obtain ⟨noColon, given⟩ := protocolType_noColon type
    have whole := divides.whole
    generalize path : (scanUri uri).2 = kept at whole
    have scanned := @scanUri_scheme scheme kept noColon given
    rw [← whole] at scanned
    rw [scanned] at path
    refine ⟨kept, ?_, ?_, ?_⟩
    · conv_rhs => rw [whole, takeWhile_scheme noColon]
      exact whole
    · rw [← path]
      exact (List.takeWhile_prefix _).length_le.trans (List.length_take_le _ _)
    · rw [← path]
      exact stop_not_mem_takeWhile _
  · rintro ⟨path, whole, short, oneLine⟩
    obtain ⟨noColon, given⟩ := protocolType_noColon known
    generalize scheme : uri.takeWhile (· ≠ 58) = name at *
    subst whole
    have kept : (scanUri (name ++ ascii "://" ++ path)).2 = path := by
      rw [scanUri_scheme noColon given, List.take_of_length_le short, takeWhile_absent oneLine]
    have noNulPath : 0 ∉ path := fun member => noNul (List.mem_append_right _ member)
    have array : uriPath (name ++ ascii "://" ++ path) = strncpy 128 path := by
      rw [uriPath, if_pos separated, kept]
    rw [kept]
    refine ⟨?_, ?_, ?_⟩
    · rw [Names, if_pos separated]
      exact ⟨name, divides_scheme noColon, known⟩
    · rw [array, strncpy_terminated_iff noNulPath]
      omega
    · rw [array, strncpy_text noNulPath (by omega)]

theorem uriClear_iff (noNul : 0 ∉ uri) :
    UriClear uri ↔ ∀ type path, parseUri uri = some (type, path) → ReadsExactly uri type path := by
  unfold UriClear
  cases separated : strstr uri (ascii "://") with
  | false =>
      rw [parseUri_name separated, if_neg (Bool.false_ne_true), ← readsExactly_name_iff noNul separated]
      constructor
      · intro reads type path same
        cases same
        exact reads
      · intro all
        exact all _ _ rfl
  | true =>
      rw [parseUri_scheme separated, if_pos rfl]
      constructor
      · intro clear type path parsed
        obtain ⟨found, known, same⟩ := Option.map_eq_some_iff.mp parsed
        cases same
        exact (readsExactly_scheme_iff noNul separated known).mpr (clear type known)
      · intro all type known
        rw [← readsExactly_scheme_iff noNul separated known]
        exact all type _ (by rw [known, Option.map_some])

variable {Table Cb Arg : Type}

/-- The scan stays inside `protocol`, what is opened is what the URI names, and a
URI that names nothing is refused. -/
structure OpensExactly (tbl : DescTable Table) (st : EpState Table Cb Arg) (outcome : OpenOutcome)
    (uri : List UInt8) : Prop where
  bounded : (scanUri uri).1.length ≤ 15
  opened : ∀ type path, opensBackend tbl st outcome uri = some (type, path) → ReadsExactly uri type path
  others : (∀ type path, ¬Names uri type path) → ∃ next, rteipcOpen tbl st outcome uri = .ok (next, -1)

/-- The URI fits the scan and, unless no endpoint is allocated or registered, is clear. -/
def UriSound (tbl : DescTable Table) (st : EpState Table Cb Arg) (outcome : OpenOutcome) (uri : List UInt8) : Prop :=
  (uri.takeWhile (· ≠ 58)).length ≤ 15 ∧
    (outcome.core = true → 0 ≤ (tbl.set outcome.desc st.epTbl st.cores.next).2 → UriClear uri)

variable {tbl : DescTable Table} {st : EpState Table Cb Arg} {outcome : OpenOutcome}

theorem rteipcOpen_unnamed (bounded : (scanUri uri).1.length ≤ 15)
    (opened : ∀ type path, opensBackend tbl st outcome uri = some (type, path) → ReadsExactly uri type path)
    (unnamed : ∀ type path, ¬Names uri type path) : ∃ next, rteipcOpen tbl st outcome uri = .ok (next, -1) := by
  have short : ¬(scanUri uri).1.length > 15 := Nat.not_lt.mpr bounded
  cases parsed : parseUri uri with
  | none => exact ⟨st, by simp only [rteipcOpen, if_neg short, parsed]⟩
  | some target =>
      obtain ⟨type, path⟩ := target
      cases allocated : outcome.core with
      | false =>
          refine ⟨st, ?_⟩
          simp only [rteipcOpen, if_neg short, parsed, allocated, Bool.not_false, if_true]
      | true =>
          by_cases refused : (tbl.set outcome.desc st.epTbl st.cores.next).2 < 0
          · exact ⟨_, rteipcOpen_refused short parsed allocated refused⟩
          · have reached := opensBackend_of short parsed allocated refused
            exact (unnamed type path (opened type path reached).named).elim

/-- A URI is opened as written or rejected exactly if it is sound. -/
theorem uri_exact_iff (tbl : DescTable Table) (st : EpState Table Cb Arg) (outcome : OpenOutcome) (noNul : 0 ∉ uri) :
    OpensExactly tbl st outcome uri ↔ UriSound tbl st outcome uri := by
  rw [UriSound, ← scanUri_protocol, uriClear_iff noNul]
  constructor
  · intro exactly
    refine ⟨exactly.bounded, fun allocated registered type path parsed => ?_⟩
    exact exactly.opened type path
      (opensBackend_of (Nat.not_lt.mpr exactly.bounded) parsed allocated (Int.not_lt.mpr registered))
  · rintro ⟨bounded, clear⟩
    have opened : ∀ type path, opensBackend tbl st outcome uri = some (type, path) → ReadsExactly uri type path := by
      intro type path reached
      have short : ¬(scanUri uri).1.length > 15 := Nat.not_lt.mpr bounded
      rw [opensBackend, if_neg short] at reached
      split at reached
      · cases reached
      next registered =>
        simp only [Bool.or_eq_true, Bool.not_eq_true', decide_eq_true_eq, not_or, Bool.not_eq_false, Int.not_lt]
          at registered
        exact clear registered.1 registered.2 type path reached
    exact ⟨bounded, opened, rteipcOpen_unnamed bounded opened⟩

end Exact

/-- A device is opened under the path its URI has. -/
theorem uri_exact_iff_tty : OpensExactly dtblTable (EpState.start dtblTable : EpState _ Unit Unit)
    ⟨true, .succeeds, true, true⟩ (ascii "tty:///dev/ttyS0") := by
  refine (uri_exact_iff dtblTable _ _ (by decide)).mpr ⟨by decide, fun _ _ => ?_⟩
  rw [UriClear, if_pos (by decide)]
  exact fun _ _ => ⟨ascii "/dev/ttyS0", by decide, by decide, by decide⟩

/-- The scan stores a name of 16 characters in `protocol`, with a NUL behind it. -/
theorem uri_overflows : ¬ ∀ uri : List UInt8, 0 ∉ uri →
    OpensExactly dtblTable (EpState.start dtblTable : EpState _ Unit Unit) ⟨true, .succeeds, true, true⟩ uri := by
  intro exactly
  exact absurd (exactly (ascii "loopback-switch1") (by decide)).bounded (by decide)

end Rteipc
