import ControlPlane.SigV4.Signing

/-! The canonical request: its parameters and headers are sorted, and the order in which they came
makes no difference.
-/

namespace ControlPlane.SigV4

open ControlPlane.Library
open ControlPlane.Library.TextOrder

-----------------------------------------------------------------------------------------
-- Parameters
-----------------------------------------------------------------------------------------

/-- What the parameters are sorted by. -/
def pairUnits (pair : Text × Text) : Lex (List Nat × List Nat) :=
  toLex (codeUnits pair.1, codeUnits pair.2)

theorem pairUnits_injective : Function.Injective pairUnits := by
  intro a b same
  have both := Prod.mk.inj (toLex.injective same)
  exact Prod.ext (codeUnits_injective both.1) (codeUnits_injective both.2)

theorem comparePairs_ne_gt (a b : Text × Text)
    : comparePairs a b ≠ .gt ↔ pairUnits a ≤ pairUnits b := by
  rw [pairUnits, pairUnits, Prod.Lex.toLex_le_toLex, comparePairs]
  split_ifs with below above second third
  · simp [below]
  · simp [below, above.ne']
  · simp [le_antisymm (not_lt.mp above) (not_lt.mp below), second.le]
  · simp [below, not_le.mpr third]
  · simp [le_antisymm (not_lt.mp above) (not_lt.mp below), not_lt.mp third]

theorem canonicalPairs_eq (searchParams : List (Text × Text))
    : canonicalPairs searchParams = sortBy pairUnits (searchParams.map encodePair) := by
  have same : (fun a b => comparePairs a b ≠ .gt) = fun a b => pairUnits a ≤ pairUnits b :=
    funext fun a => funext fun b => propext (comparePairs_ne_gt a b)
  simp only [canonicalPairs, sortBy, same]

/-- The encoded parameters, all of them, duplicates too. -/
theorem canonicalPairs_perm (searchParams : List (Text × Text))
    : (canonicalPairs searchParams).Perm (searchParams.map encodePair) := by
  rw [canonicalPairs_eq]
  exact sortBy_perm _ _

theorem canonicalPairs_pairwise (searchParams : List (Text × Text))
    : (canonicalPairs searchParams).Pairwise fun a b => pairUnits a ≤ pairUnits b := by
  rw [canonicalPairs_eq]
  exact pairwise_sortBy _ _

theorem canonicalPairs_eq_of_perm {searchParams other : List (Text × Text)}
    (same : searchParams.Perm other)
    : canonicalPairs searchParams = canonicalPairs other := by
  rw [canonicalPairs_eq, canonicalPairs_eq]
  exact sortBy_eq_of_perm pairUnits_injective (same.map encodePair)

-----------------------------------------------------------------------------------------
-- Maps
-----------------------------------------------------------------------------------------

section Maps

variable {ν : Type*}

theorem get?_put (key : Text) (value : ν) (map : List (Text × ν)) (k : Text)
    : get? (put key value map) k = if k = key then some value else get? map k := by
  induction map with
  | nil =>
      by_cases same : k = key
      · simp [get?, put, same]
      · simp [get?, put, same, Ne.symm same]
  | cons entry rest ih =>
      rw [put]
      by_cases found : entry.1 = key
      · by_cases same : k = key
        · simp [get?, found, same]
        · simp [get?, found, same, Ne.symm same]
      · by_cases first : entry.1 = k
        · have apart : k ≠ key := fun same => found (first.trans same)
          simp [get?, first, apart]
        · rw [if_neg found]
          simpa [get?, first] using ih

theorem isSome_get? (map : List (Text × ν)) (key : Text)
    : (get? map key).isSome = true ↔ key ∈ map.map Prod.fst := by
  rw [get?, Option.isSome_map, List.find?_isSome, List.mem_map]
  simp only [decide_eq_true_eq]

theorem mem_keys_put {key name : Text} {value : ν} {map : List (Text × ν)}
    : name ∈ (put key value map).map Prod.fst ↔ name = key ∨ name ∈ map.map Prod.fst := by
  rw [← isSome_get?, get?_put, ← isSome_get?]
  split_ifs with same
  · simp [same]
  · simp [same]

theorem nodup_put (key : Text) (value : ν) {map : List (Text × ν)}
    (distinct : (map.map Prod.fst).Nodup)
    : ((put key value map).map Prod.fst).Nodup := by
  induction map with
  | nil => exact List.nodup_singleton key
  | cons entry rest ih =>
      rw [List.map_cons, List.nodup_cons] at distinct
      rw [put]
      split
      · next found =>
          rw [List.map_cons, List.nodup_cons, ← found]
          exact distinct
      · next apart =>
          rw [List.map_cons, List.nodup_cons, mem_keys_put, not_or]
          exact ⟨⟨apart, distinct.1⟩, ih distinct.2⟩

end Maps

-----------------------------------------------------------------------------------------
-- Collected headers
-----------------------------------------------------------------------------------------

section Platform

variable {platform : Platform}

/-- The headers of a map have distinct names, in lower case. -/
structure WellNamed (platform : Platform) (collected : Collected) : Prop where
  distinct : (collected.map Prod.fst).Nodup
  lower : ∀ name ∈ collected.map Prod.fst, platform.toLowerCase name = name

theorem WellNamed.nil : WellNamed platform [] where
  distinct := List.nodup_nil
  lower := by simp

theorem WellNamed.add {collected : Collected} (wellNamed : WellNamed platform collected)
    (header : Text × Text)
    : WellNamed platform (add platform collected header) where
  distinct := nodup_put _ _ wellNamed.distinct
  lower := by
    intro name listed
    rcases mem_keys_put.mp listed with new | old
    · rw [new, platform.lower_lower]
    · exact wellNamed.lower name old

theorem WellNamed.addAbsent {collected : Collected} (wellNamed : WellNamed platform collected)
    (name value : Text)
    : WellNamed platform (addAbsent platform collected name value) := by
  rw [SigV4.addAbsent]
  split
  · exact wellNamed
  · exact wellNamed.add (name, value)

theorem WellNamed.foldl {collected : Collected} (wellNamed : WellNamed platform collected)
    (headers : List (Text × Text))
    : WellNamed platform (headers.foldl (SigV4.add platform) collected) := by
  induction headers generalizing collected with
  | nil => exact wellNamed
  | cons header headers ih => exact ih (wellNamed.add header)

theorem wellNamed_collect (platform : Platform) (req : SigV4Request)
    : WellNamed platform (collect platform req) := by
  have given : WellNamed platform ((headerValues req.headers).foldl (SigV4.add platform) []) :=
    WellNamed.nil.foldl (headerValues req.headers)
  have dated := (given.addAbsent hostName req.url.host).addAbsent amzDateName req.amzDate
  rw [collect]
  cases req.sessionToken with
  | none => exact dated
  | some token =>
      simp only
      split
      · exact dated
      · exact dated.addAbsent securityTokenName token

/-- The signed names are those of the headers, each once and in order. -/
theorem signedHeaderNames_pairwise {collected : Collected} (wellNamed : WellNamed platform collected)
    : (signedHeaderNames collected).Pairwise fun a b => codeUnits a < codeUnits b :=
  pairwise_lt_sortBy (fun _ _ _ _ => codeUnits_injective) wellNamed.distinct

theorem mem_signedHeaderNames {collected : Collected} {name : Text}
    : name ∈ signedHeaderNames collected ↔ name ∈ collected.map Prod.fst :=
  (sortBy_perm codeUnits _).mem_iff

-----------------------------------------------------------------------------------------
-- Maps with the same values
-----------------------------------------------------------------------------------------

/-- Two maps have the same value for every name, in whatever order they have them. -/
def SameValues (collected other : Collected) : Prop :=
  ∀ name, get? collected name = get? other name

theorem SameValues.add {collected other : Collected} (same : SameValues collected other)
    (header : Text × Text)
    : SameValues (add platform collected header) (add platform other header) := by
  intro name
  simp only [SigV4.add, get?_put, same name, same (platform.toLowerCase header.1)]

theorem SameValues.addAbsent {collected other : Collected} (same : SameValues collected other)
    (name value : Text)
    : SameValues (addAbsent platform collected name value)
        (addAbsent platform other name value) := by
  rw [SigV4.addAbsent, SigV4.addAbsent, same name]
  split
  · exact same
  · exact same.add (name, value)

/-- The names of such maps are sorted into one list. -/
theorem SameValues.names {collected other : Collected} (same : SameValues collected other)
    (wellNamed : WellNamed platform collected) (other_wellNamed : WellNamed platform other)
    : signedHeaderNames collected = signedHeaderNames other := by
  have perm : (collected.map Prod.fst).Perm (other.map Prod.fst) := by
    rw [List.perm_ext_iff_of_nodup wellNamed.distinct other_wellNamed.distinct]
    intro name
    rw [← isSome_get?, same name, isSome_get?]
  exact sortBy_eq_of_perm (fun _ _ => codeUnits_injective) perm

/-- The values that headers give a name, in their order. -/
def valuesOf (platform : Platform) (headers : List (Text × Text)) (name : Text) : List Text :=
  (headers.filter fun header => platform.toLowerCase header.1 = name).map fun header =>
    trimAll header.2

/-- What a name has after headers, by induction on them. -/
theorem get?_foldl (headers : List (Text × Text)) (collected : Collected) (name : Text)
    : get? (headers.foldl (SigV4.add platform) collected) name
      = if valuesOf platform headers name = [] then get? collected name
        else some ((get? collected name).getD [] ++ valuesOf platform headers name) := by
  induction headers generalizing collected with
  | nil => simp [valuesOf]
  | cons header headers ih =>
      rw [List.foldl_cons, ih, SigV4.add, get?_put]
      by_cases named : platform.toLowerCase header.1 = name
      · have first :
            valuesOf platform (header :: headers) name
              = trimAll header.2 :: valuesOf platform headers name := by
          simp [valuesOf, named]
        rw [first, if_pos named.symm, named, if_neg (List.cons_ne_nil _ _)]
        by_cases empty : valuesOf platform headers name = []
        · rw [if_pos empty, empty]
        · rw [if_neg empty, Option.getD_some, List.append_assoc, List.singleton_append]
      · have first :
            valuesOf platform (header :: headers) name = valuesOf platform headers name := by
          simp [valuesOf, named]
        rw [first, if_neg (Ne.symm named)]

/-- Headers in another order, where those with one name keep theirs. -/
def KeepsEqualNames (platform : Platform) (headers other : List (Text × List Text)) : Prop :=
  ∀ name,
    (headers.filter fun header => platform.toLowerCase header.1 = name)
      = other.filter fun header => platform.toLowerCase header.1 = name

theorem filter_headerValues (headers : List (Text × List Text)) (name : Text)
    : ((headerValues headers).filter fun header => platform.toLowerCase header.1 = name)
      = headerValues (headers.filter fun header => platform.toLowerCase header.1 = name) := by
  induction headers with
  | nil => rfl
  | cons header headers ih =>
      rw [headerValues, List.flatMap_cons, List.filter_append, ← headerValues, ih]
      by_cases named : platform.toLowerCase header.1 = name
      · simp [headerValues, named]
      · simp [headerValues, named]

theorem KeepsEqualNames.collect {headers other : List (Text × List Text)}
    (kept : KeepsEqualNames platform headers other)
    : SameValues ((headerValues headers).foldl (SigV4.add platform) [])
        ((headerValues other).foldl (SigV4.add platform) []) := by
  intro name
  have values :
      valuesOf platform (headerValues headers) name
        = valuesOf platform (headerValues other) name := by
    rw [valuesOf, valuesOf, filter_headerValues, filter_headerValues, kept name]
  rw [get?_foldl, get?_foldl, values]

-----------------------------------------------------------------------------------------
-- Requests
-----------------------------------------------------------------------------------------

/-- The request with its parameters and its headers in another order. -/
def SigV4Request.reordered (req : SigV4Request) (searchParams : List (Text × Text))
    (headers : List (Text × List Text)) : SigV4Request :=
  { req with url := { req.url with searchParams }, headers }

theorem sameValues_collect (req : SigV4Request) (searchParams : List (Text × Text))
    {headers : List (Text × List Text)} (kept : KeepsEqualNames platform req.headers headers)
    : SameValues (collect platform (req.reordered searchParams headers))
        (collect platform req) := by
  have given :
      SameValues ((headerValues headers).foldl (SigV4.add platform) [])
        ((headerValues req.headers).foldl (SigV4.add platform) []) :=
    fun name => (kept.collect name).symm
  let withDate (collected : Collected) : Collected :=
    addAbsent platform (addAbsent platform collected hostName req.url.host) amzDateName req.amzDate
  have dated :
      SameValues (withDate ((headerValues headers).foldl (SigV4.add platform) []))
        (withDate ((headerValues req.headers).foldl (SigV4.add platform) [])) :=
    (given.addAbsent hostName req.url.host).addAbsent amzDateName req.amzDate
  simp only [SigV4.collect, SigV4Request.reordered]
  cases req.sessionToken with
  | none => exact dated
  | some token =>
      simp only
      split
      · exact dated
      · exact dated.addAbsent securityTokenName token

/-- The canonical request is the same, whatever the order of parameters and of headers with different
names.
-/
theorem canonicalRequest_reordered (req : SigV4Request) (uri : Text)
    {searchParams : List (Text × Text)} {headers : List (Text × List Text)}
    (params : req.url.searchParams.Perm searchParams)
    (kept : KeepsEqualNames platform req.headers headers)
    : canonicalRequest platform (req.reordered searchParams headers) uri
      = canonicalRequest platform req uri := by
  have same := sameValues_collect req searchParams kept
  have names := same.names (wellNamed_collect platform _) (wellNamed_collect platform req)
  have query : canonicalPairs searchParams = canonicalPairs req.url.searchParams :=
    (canonicalPairs_eq_of_perm params).symm
  have values (name : Text)
      : headerValue (collect platform (req.reordered searchParams headers)) name
        = headerValue (collect platform req) name := by
    rw [headerValue, same name, headerValue]
  simp only [canonicalRequest, names, values]
  simp only [SigV4Request.reordered, query]

theorem signSigV4_reordered (req : SigV4Request) {searchParams : List (Text × Text)}
    {headers : List (Text × List Text)} (params : req.url.searchParams.Perm searchParams)
    (kept : KeepsEqualNames platform req.headers headers)
    : signSigV4 platform (req.reordered searchParams headers) = signSigV4 platform req := by
  simp only [signSigV4, canonicalRequest_reordered req _ params kept]
  rfl

/-- What a canonical request promises: its parameters are those of the URL, encoded and sorted, and
its headers have distinct names in lower case, sorted.
-/
structure CanonicalRequest.Sorted (platform : Platform) (canonical : CanonicalRequest)
    (req : SigV4Request) : Prop where
  params : canonical.query.Perm (req.url.searchParams.map encodePair)
  params_sorted : canonical.query.Pairwise fun a b => pairUnits a ≤ pairUnits b
  names_sorted : (canonical.headers.map Prod.fst).Pairwise fun a b => codeUnits a < codeUnits b
  names_distinct : (canonical.headers.map Prod.fst).Nodup
  names_lower : ∀ name ∈ canonical.headers.map Prod.fst, platform.toLowerCase name = name

theorem sorted_canonicalRequest (req : SigV4Request) (uri : Text)
    : (canonicalRequest platform req uri).Sorted platform req := by
  have wellNamed := wellNamed_collect platform req
  have names :
      (canonicalRequest platform req uri).headers.map Prod.fst
        = signedHeaderNames (collect platform req) := by
    simp only [canonicalRequest, List.map_map, Function.comp_def, List.map_id']
  exact
    {
      params := canonicalPairs_perm _,
      params_sorted := canonicalPairs_pairwise _,
      names_sorted := names ▸ signedHeaderNames_pairwise wellNamed,
      names_distinct := names ▸ (sortBy_perm codeUnits _).nodup_iff.mpr wellNamed.distinct,
      names_lower := fun name listed =>
        wellNamed.lower name (mem_signedHeaderNames.mp (names ▸ listed))
    }

/-- Every request that is signed is signed by a sorted canonical request. -/
theorem sorted_signSigV4 (req : SigV4Request) {result : SigV4Result}
    (signed : signSigV4 platform req = some result)
    : ∃ canonical : CanonicalRequest,
        result.canonicalRequest = canonical.text ∧ canonical.Sorted platform req := by
  rw [signSigV4, Option.map_eq_some_iff] at signed
  obtain ⟨uri, -, rfl⟩ := signed
  exact ⟨_, rfl, sorted_canonicalRequest req uri⟩

end Platform

end ControlPlane.SigV4
