import Switchboard.Proofs.Alias.Registration

/-!
# What a snapshot holds

A snapshot keeps two lists in the order of registration, the formats and the aliases. Both are
filled in one pass over the listing, in which single formats and whole aliases may be left out.
`Snapshot.Represents` says what the two lists hold when the pass is over, in terms of the listing
alone, and how they fit together.

An alias advertises a format (`Definition.Advertises`) when it is valid and lists the format, and
the format compiles for it. The occurrences of a listing are what its aliases advertise, in order
(`mem_occurrences_iff`), and an alias is registered when it advertises anything.

## Main results

* `recognizer?_build`, `alias?_build`: what is registered under a format and under a name.
* `exists_of_mem_recognizers`: where a registered format comes from.
* `represents_build`: a snapshot represents its listing, and aliases at the end of the listing
  leave what was registered before in its place.
-/

namespace Switchboard.Alias

/-! ### Items by their keys -/

section Put

variable {α : Type} {key : α → String}

/-- The keys of items that are put in place are the keys without repetitions. -/
theorem map_putAll_nil (key : α → String) (items : List α) :
    (putAll key [] items).map key = (items.map key).eraseDups := by
  have hkey : ∀ k ∈ (items.map key).eraseDups,
      ∃ item, lastOf key items k = some item ∧ key item = id k :=
    fun k hk => exists_lastOf (List.mem_eraseDups.mp hk)
  rw [putAll_nil, map_filterMap_of_key hkey, List.map_id]

/-- What is found under a key is the item that came last. -/
theorem find?_putAll_nil (key : α → String) (items : List α) (k : String) :
    (putAll key [] items).find? (fun item => key item == k) = lastOf key items k := by
  have hany : ∀ k' ∈ (items.map key).eraseDups,
      ((lastOf key items k').any fun item => key item == k) = (k' == k) := by
    intro k' hk'
    obtain ⟨item, hitem, rfl⟩ := exists_lastOf (List.mem_eraseDups.mp hk')
    rw [hitem, Option.any_some]
  rw [putAll_nil, List.find?_filterMap, List.find?_congr hany]
  cases hfind : (items.map key).eraseDups.find? fun k' => k' == k with
  | some k' =>
      obtain rfl : k' = k := by simpa using List.find?_some hfind
      rfl
  | none =>
      rw [Option.bind_none, eq_comm, Option.eq_none_iff_forall_not_mem]
      intro item hitem
      obtain ⟨hmem, rfl⟩ := lastOf_eq_some hitem
      have hkeys := List.mem_eraseDups.mpr (List.mem_map_of_mem (f := key) hmem)
      simpa using List.find?_eq_none.mp hfind _ hkeys

/-- The last item of a kind is one behind which there is no other. -/
theorem find?_reverse_eq_some_iff {p : α → Bool} {items : List α} {item : α} :
    items.reverse.find? p = some item ↔
      p item ∧ ∃ front back, items = front ++ item :: back ∧ ∀ later ∈ back, ¬ p later := by
  have hreverse (front back : List α) :
      items.reverse = back ++ item :: front ↔ items = front.reverse ++ item :: back.reverse := by
    rw [← List.reverse_inj]
    simp
  rw [List.find?_eq_some_iff_append]
  refine and_congr_right fun _ => ?_
  constructor
  · rintro ⟨back, front, hitems, hback⟩
    refine ⟨front.reverse, back.reverse, (hreverse front back).mp hitems, fun later hlater => ?_⟩
    simpa using hback later (List.mem_reverse.mp hlater)
  · rintro ⟨front, back, hitems, hback⟩
    refine ⟨back.reverse, front.reverse, (hreverse _ _).mpr (by simpa using hitems), ?_⟩
    intro later hlater
    simpa using hback later (List.mem_reverse.mp hlater)

/-- Every item that is left is the last one with its key. -/
theorem mem_putAll_nil_iff {items : List α} {item : α} :
    item ∈ putAll key [] items ↔ lastOf key items (key item) = some item := by
  rw [putAll_nil, List.mem_filterMap]
  constructor
  · rintro ⟨k, -, hlast⟩
    rwa [(lastOf_eq_some hlast).2]
  · intro hlast
    have hmem := List.mem_map_of_mem (f := key) (lastOf_eq_some hlast).1
    exact ⟨key item, List.mem_eraseDups.mpr hmem, hlast⟩

/-- The last item with a key, among those of a kind. -/
theorem lastOf_filter_eq_some_iff {p : α → Bool} {items : List α} {k : String} {item : α} :
    lastOf key (items.filter p) k = some item ↔
      (p item ∧ key item = k) ∧ ∃ front back, items = front ++ item :: back ∧
        ∀ later ∈ back, p later → key later ≠ k := by
  rw [lastOf, ← List.filter_reverse, List.find?_filter, find?_reverse_eq_some_iff]
  simp

/-- The last item with a key. -/
theorem lastOf_eq_some_iff {items : List α} {k : String} {item : α} :
    lastOf key items k = some item ↔
      key item = k ∧ ∃ front back, items = front ++ item :: back ∧
        ∀ later ∈ back, key later ≠ k := by
  rw [lastOf, find?_reverse_eq_some_iff]
  simp

/-- Without their repetitions, keys stand in the order in which they occur first. -/
theorem pairwise_idxOf_eraseDups (keys : List String) :
    keys.eraseDups.Pairwise fun k k' => keys.idxOf k < keys.idxOf k' := by
  induction keys using List.reverseRecOn with
  | nil => exact .nil
  | append_singleton keys k ih =>
      have hold : keys.eraseDups.Pairwise fun k₁ k₂ =>
          (keys ++ [k]).idxOf k₁ < (keys ++ [k]).idxOf k₂ := by
        refine ih.imp_of_mem fun {k₁ k₂} h₁ h₂ hlt => ?_
        rwa [List.idxOf_append_of_mem (List.mem_eraseDups.mp h₁),
          List.idxOf_append_of_mem (List.mem_eraseDups.mp h₂)]
      rw [eraseDups_concat]
      split
      · exact hold
      · next hk =>
          have hnew : k ∉ keys := fun h => hk (List.mem_eraseDups.mpr h)
          refine List.pairwise_append.mpr ⟨hold, List.pairwise_singleton _ _, ?_⟩
          intro k₁ h₁ k₂ h₂
          have hmem := List.mem_eraseDups.mp h₁
          rw [List.mem_singleton.mp h₂, List.idxOf_append_of_mem hmem,
            List.idxOf_append_of_notMem hnew]
          exact Nat.lt_of_lt_of_le (List.idxOf_lt_length_of_mem hmem) (Nat.le_add_right _ _)

/-- Further keys do not change the order of those that are there. -/
theorem eraseDups_prefix_append (keys more : List String) :
    keys.eraseDups <+: (keys ++ more).eraseDups := by
  rw [List.eraseDups_append]
  exact List.prefix_append _ _

end Put

/-! ### What is advertised -/

/-- The recognizer of an occurrence is compiled for its owner. -/
theorem Occurrence.recognizer?_eq_some_iff {occurrence : Occurrence} {recognizer : Recognizer} :
    occurrence.recognizer? = some recognizer ↔
      Recognizer.compile occurrence.owner occurrence.format = .ok recognizer := by
  rw [recognizer?]
  cases Recognizer.compile occurrence.owner occurrence.format <;> simp [Except.toOption]

/-- What a recognizer is compiled to. -/
theorem Recognizer.compile_eq_ok_iff {owner format : String} {recognizer : Recognizer} :
    compile owner format = .ok recognizer ↔
      ∃ pattern, Format.pattern? format = some pattern ∧
        recognizer = ⟨format, owner, Format.placeholders format, pattern⟩ := by
  have hoccurrence : Occurrence.recognizer? ⟨owner, format⟩ = some recognizer ↔
      compile owner format = .ok recognizer := Occurrence.recognizer?_eq_some_iff
  rw [← hoccurrence, Occurrence.recognizer?, toOption_compile, Option.map_eq_some_iff]
  simp only [eq_comm]

namespace Definition

/-- An alias is valid and lists a format, which compiles. -/
def Advertises (definition : Definition) (format : String) : Prop :=
  definition.validate = .ok () ∧ format ∈ definition.formats ∧
    ∃ recognizer, Recognizer.compile definition.name format = .ok recognizer

/-- The occurrences of a definition are the formats that it advertises. -/
theorem mem_occurrences_iff {definition : Definition} {occurrence : Occurrence} :
    occurrence ∈ definition.occurrences ↔
      occurrence.owner = definition.name ∧ definition.Advertises occurrence.format := by
  have hcompile (format : String) :
      (∃ recognizer, Recognizer.compile definition.name format = .ok recognizer) ↔
        (Format.pattern? format).isSome := by
    simp only [Recognizer.compile_eq_ok_iff, Option.isSome_iff_exists]
    exact ⟨fun ⟨_, pattern, h, _⟩ => ⟨pattern, h⟩, fun ⟨pattern, h⟩ => ⟨_, pattern, h, rfl⟩⟩
  rw [Advertises, hcompile, validate_eq_ok_iff, occurrences]
  split
  · next h => exact ⟨fun hmem => absurd hmem List.not_mem_nil, fun hmem => absurd h hmem.2.1⟩
  · next h =>
      rw [List.mem_map]
      constructor
      · rintro ⟨format, hformat, rfl⟩
        exact ⟨rfl, h, List.mem_filter.mp hformat⟩
      · rintro ⟨howner, -, hformat⟩
        refine ⟨occurrence.format, List.mem_filter.mpr hformat, ?_⟩
        rw [← howner]

/-- A definition with an occurrence advertises a format. -/
theorem exists_occurrence_iff {definition : Definition} :
    (!definition.occurrences.isEmpty) = true ↔ ∃ format, definition.Advertises format := by
  rw [Bool.not_eq_true', List.isEmpty_eq_false_iff_exists_mem]
  constructor
  · rintro ⟨occurrence, hmem⟩
    exact ⟨occurrence.format, (mem_occurrences_iff.mp hmem).2⟩
  · rintro ⟨format, h⟩
    exact ⟨⟨definition.name, format⟩, mem_occurrences_iff.mpr ⟨rfl, h⟩⟩

end Definition

namespace Listing

variable {listing : List Definition}

/-- The aliases of a listing that advertise anything. -/
def advertising (listing : List Definition) : List Definition :=
  listing.filter fun definition => !definition.occurrences.isEmpty

/-- Which definitions of a listing advertise anything. -/
theorem mem_advertising_iff {definition : Definition} :
    definition ∈ advertising listing ↔
      definition ∈ listing ∧ ∃ format, definition.Advertises format := by
  rw [advertising, List.mem_filter, Definition.exists_occurrence_iff]

/-- The occurrences of a listing are those of its definitions. -/
theorem mem_occurrences_iff {occurrence : Occurrence} :
    occurrence ∈ occurrences listing ↔ ∃ definition ∈ listing,
      definition.name = occurrence.owner ∧ definition.Advertises occurrence.format := by
  simp only [occurrences, List.mem_flatMap, Definition.mem_occurrences_iff, eq_comm]

/-- The formats of a listing are those that some definition advertises. -/
theorem mem_formats_iff {format : String} :
    format ∈ formats listing ↔ ∃ definition ∈ listing, definition.Advertises format := by
  simp only [formats, List.mem_eraseDups, List.mem_map, mem_occurrences_iff]
  constructor
  · rintro ⟨occurrence, ⟨definition, hmem, -, h⟩, rfl⟩
    exact ⟨definition, hmem, h⟩
  · rintro ⟨definition, hmem, h⟩
    exact ⟨⟨definition.name, format⟩, ⟨definition, hmem, rfl, h⟩, rfl⟩

/-- The names of a listing are those of definitions that advertise a format. -/
theorem mem_names_iff {name : String} :
    name ∈ ((advertising listing).map Definition.name).eraseDups ↔
      ∃ definition ∈ listing, definition.name = name ∧ ∃ format, definition.Advertises format := by
  simp only [List.mem_eraseDups, List.mem_map, mem_advertising_iff]
  exact exists_congr fun definition => by tauto

end Listing

/-! ### What is registered -/

namespace Snapshot

/-- One alias puts itself among those that are there, if it advertises anything. -/
theorem aliases_add (snapshot : Snapshot) (definition : Definition) :
    (snapshot.add definition).aliases =
      putAll Definition.name snapshot.aliases (Listing.advertising [definition]) := by
  rw [Listing.advertising, List.filter_singleton]
  by_cases hvalid : definition.validate = .ok ()
  · have hrecognizers := recognizersOf_eq (Definition.validate_eq_ok_iff.mp hvalid)
    cases hoccurrences : definition.occurrences with
    | nil =>
        rw [hoccurrences, List.filterMap_nil] at hrecognizers
        rw [add, hvalid, hrecognizers]
        rfl
    | cons occurrence others =>
        have hmem : occurrence ∈ definition.occurrences := hoccurrences ▸ List.mem_cons_self
        obtain ⟨pattern, -, hrecognizer⟩ := definition.recognizer?_of_mem hmem
        rw [hoccurrences, List.filterMap_cons_some hrecognizer] at hrecognizers
        rw [add, hvalid, hrecognizers]
        rfl
  · have hnone : definition.occurrences = [] := by
      rw [Definition.occurrences, if_pos (not_not.mp (mt Definition.validate_eq_ok_iff.mpr hvalid))]
    rw [hnone, add]
    split
    · next h _ => exact absurd h hvalid
    · rfl

/-- **The aliases** of a snapshot are the advertising definitions, put in place by their names. -/
theorem aliases_build (listing : List Definition) (time : Nat) :
    (build listing time).aliases = putAll Definition.name [] (Listing.advertising listing) := by
  have hfold (snapshot : Snapshot) : (listing.foldl add snapshot).aliases =
      putAll Definition.name snapshot.aliases (Listing.advertising listing) := by
    induction listing generalizing snapshot with
    | nil => rfl
    | cons definition listing ih =>
        rw [List.foldl_cons, ih, aliases_add, ← putAll_append, Listing.advertising,
          Listing.advertising, ← List.filter_append, List.singleton_append]
        rfl
  exact hfold (empty time)

/-- What is registered under a name is the last alias of this name that advertises anything. -/
theorem alias?_build (listing : List Definition) (time : Nat) (name : String) :
    (build listing time).alias? name = lastOf Definition.name (Listing.advertising listing) name := by
  rw [alias?, aliases_build, find?_putAll_nil]

/-- The names of a snapshot, in the order of their first definitions. -/
theorem map_name_build (listing : List Definition) (time : Nat) :
    (build listing time).aliases.map Definition.name =
      ((Listing.advertising listing).map Definition.name).eraseDups := by
  rw [aliases_build, map_putAll_nil]

/-- **The recognizers** of a snapshot are those of all occurrences, put in place by their
formats. -/
theorem recognizers_build_eq_putAll (listing : List Definition) (time : Nat) :
    (build listing time).recognizers =
      putAll Recognizer.format []
        ((Listing.occurrences listing).filterMap Occurrence.recognizer?) :=
  recognizers_foldl_add listing (empty time)

/-- The formats of a snapshot, in the order of their first occurrences. -/
theorem map_format_build (listing : List Definition) (time : Nat) :
    (build listing time).recognizers.map Recognizer.format = Listing.formats listing := by
  rw [recognizers_build_eq_putAll, map_putAll_nil,
    map_filterMap_of_key fun _ => Listing.exists_recognizer, Listing.formats]

/-- What is registered under a format is the recognizer of its last occurrence. -/
theorem recognizer?_build (listing : List Definition) (time : Nat) (format : String) :
    (build listing time).recognizer? format =
      (lastOf Occurrence.format (Listing.occurrences listing) format).bind
        Occurrence.recognizer? := by
  rw [recognizer?, recognizers_build_eq_putAll, find?_putAll_nil,
    lastOf_filterMap fun _ => Listing.exists_recognizer]

/-- A snapshot has one recognizer for each of its formats. -/
theorem mem_recognizers_iff {listing : List Definition} {time : Nat} {recognizer : Recognizer} :
    recognizer ∈ (build listing time).recognizers ↔
      (build listing time).recognizer? recognizer.format = some recognizer := by
  rw [recognizer?, recognizers_build_eq_putAll, find?_putAll_nil, mem_putAll_nil_iff]

/-- A snapshot has one definition for each of its names. -/
theorem mem_aliases_iff {listing : List Definition} {time : Nat} {definition : Definition} :
    definition ∈ (build listing time).aliases ↔
      (build listing time).alias? definition.name = some definition := by
  rw [alias?, aliases_build, find?_putAll_nil, mem_putAll_nil_iff]

/-- The recognizer that is registered under a format, by the last occurrence of the format. -/
theorem recognizer?_eq_some_iff {listing : List Definition} {time : Nat} {format : String}
    {recognizer : Recognizer} :
    (build listing time).recognizer? format = some recognizer ↔
      ∃ owner front back, Listing.occurrences listing = front ++ ⟨owner, format⟩ :: back ∧
        (∀ later ∈ back, later.format ≠ format) ∧
          Recognizer.compile owner format = .ok recognizer := by
  simp only [recognizer?_build, Option.bind_eq_some_iff, lastOf_eq_some_iff,
    Occurrence.recognizer?_eq_some_iff]
  constructor
  · rintro ⟨⟨owner, _⟩, ⟨rfl, front, back, hlisting, hlater⟩, hcompile⟩
    exact ⟨owner, front, back, hlisting, hlater, hcompile⟩
  · rintro ⟨owner, front, back, hlisting, hlater, hcompile⟩
    exact ⟨⟨owner, format⟩, ⟨rfl, front, back, hlisting, hlater⟩, hcompile⟩

/-- A registered format is advertised by an alias of the name under which it is registered. -/
theorem exists_of_mem_recognizers {listing : List Definition} {time : Nat} {recognizer : Recognizer}
    (h : recognizer ∈ (build listing time).recognizers) :
    Recognizer.compile recognizer.owner recognizer.format = .ok recognizer ∧
      ∃ definition ∈ listing, definition.name = recognizer.owner ∧
        definition.Advertises recognizer.format := by
  obtain ⟨owner, front, back, hlisting, -, hcompile⟩ :=
    recognizer?_eq_some_iff.mp (mem_recognizers_iff.mp h)
  obtain rfl : recognizer.owner = owner := by
    obtain ⟨pattern, -, hrecognizer⟩ := Recognizer.compile_eq_ok_iff.mp hcompile
    rw [hrecognizer]
  have hmem : (⟨recognizer.owner, recognizer.format⟩ : Occurrence) ∈ Listing.occurrences listing := by
    rw [hlisting]
    exact List.mem_append_right _ List.mem_cons_self
  exact ⟨hcompile, Listing.mem_occurrences_iff.mp hmem⟩

/-- The alias of a registered format is registered. -/
theorem exists_alias_of_mem {listing : List Definition} {time : Nat} {recognizer : Recognizer}
    (h : recognizer ∈ (build listing time).recognizers) :
    ∃ definition, (build listing time).alias? recognizer.owner = some definition := by
  obtain ⟨-, definition, hmem, hname, hadvertises⟩ := exists_of_mem_recognizers h
  have hadvertising : definition ∈ Listing.advertising listing :=
    Listing.mem_advertising_iff.mpr ⟨hmem, _, hadvertises⟩
  obtain ⟨last, hlast, -⟩ :=
    exists_lastOf (hname ▸ List.mem_map_of_mem (f := Definition.name) hadvertising)
  exact ⟨last, (alias?_build listing time recognizer.owner).trans hlast⟩

/-! ### The invariant -/

/-- What a snapshot holds of a listing. -/
structure Represents (snapshot : Snapshot) (listing : List Definition) : Prop where
  /-- No format is registered twice, -/
  nodup_formats : (snapshot.recognizers.map Recognizer.format).Nodup
  /-- and a format is registered when an alias advertises it. -/
  mem_formats_iff : ∀ format, format ∈ snapshot.recognizers.map Recognizer.format ↔
    ∃ definition ∈ listing, definition.Advertises format
  /-- The formats stand in the order in which they are advertised first. -/
  formats_ordered : (snapshot.recognizers.map Recognizer.format).Pairwise fun format format' =>
    ((Listing.occurrences listing).map Occurrence.format).idxOf format <
      ((Listing.occurrences listing).map Occurrence.format).idxOf format'
  /-- What is found under a format is in the list, -/
  mem_recognizers_iff : ∀ recognizer, recognizer ∈ snapshot.recognizers ↔
    snapshot.recognizer? recognizer.format = some recognizer
  /-- and it is the recognizer for the alias that advertises the format last. -/
  recognizer?_eq_some_iff : ∀ format recognizer,
    snapshot.recognizer? format = some recognizer ↔
      ∃ owner front back, Listing.occurrences listing = front ++ ⟨owner, format⟩ :: back ∧
        (∀ later ∈ back, later.format ≠ format) ∧
          Recognizer.compile owner format = .ok recognizer
  /-- No name is registered twice, -/
  nodup_names : (snapshot.aliases.map Definition.name).Nodup
  /-- and a name is registered when an alias of this name advertises anything. -/
  mem_names_iff : ∀ name, name ∈ snapshot.aliases.map Definition.name ↔
    ∃ definition ∈ listing, definition.name = name ∧ ∃ format, definition.Advertises format
  /-- The names stand in the order of their first aliases that advertise anything. -/
  names_ordered : (snapshot.aliases.map Definition.name).Pairwise fun name name' =>
    ((Listing.advertising listing).map Definition.name).idxOf name <
      ((Listing.advertising listing).map Definition.name).idxOf name'
  /-- What is found under a name is in the list, -/
  mem_aliases_iff : ∀ definition, definition ∈ snapshot.aliases ↔
    snapshot.alias? definition.name = some definition
  /-- and it is the last alias of this name that advertises anything. -/
  alias?_eq_some_iff : ∀ name definition, snapshot.alias? name = some definition ↔
    ((∃ format, definition.Advertises format) ∧ definition.name = name) ∧
      ∃ front back, listing = front ++ definition :: back ∧
        ∀ later ∈ back, (∃ format, later.Advertises format) → later.name ≠ name
  /-- The alias of every format is registered. -/
  exists_alias : ∀ recognizer ∈ snapshot.recognizers, ∃ definition,
    snapshot.alias? recognizer.owner = some definition

/-- **What a snapshot holds.** A snapshot represents the listing from which it was built. With more
aliases at the end of the listing, the formats and the names that were registered before come first
and in the same order. -/
theorem represents_build (listing : List Definition) (time : Nat) :
    (build listing time).Represents listing ∧
      ∀ (more : List Definition) (time' : Nat),
        (build listing time).recognizers.map Recognizer.format <+:
            (build (listing ++ more) time').recognizers.map Recognizer.format ∧
          (build listing time).aliases.map Definition.name <+:
            (build (listing ++ more) time').aliases.map Definition.name := by
  refine ⟨?_, fun more time' => ⟨?_, ?_⟩⟩
  · exact
      { nodup_formats := by
          rw [map_format_build]
          exact nodup_eraseDups _
        mem_formats_iff := fun format => by
          rw [map_format_build, Listing.mem_formats_iff]
        formats_ordered := by
          rw [map_format_build]
          exact pairwise_idxOf_eraseDups _
        mem_recognizers_iff := fun _ => mem_recognizers_iff
        recognizer?_eq_some_iff := fun _ _ => recognizer?_eq_some_iff
        nodup_names := by
          rw [map_name_build]
          exact nodup_eraseDups _
        mem_names_iff := fun name => by
          rw [map_name_build, Listing.mem_names_iff]
        names_ordered := by
          rw [map_name_build]
          exact pairwise_idxOf_eraseDups _
        mem_aliases_iff := fun _ => mem_aliases_iff
        alias?_eq_some_iff := fun name definition => by
          rw [alias?_build, Listing.advertising, lastOf_filter_eq_some_iff]
          simp only [Definition.exists_occurrence_iff]
        exists_alias := fun recognizer h => exists_alias_of_mem h }
  · rw [map_format_build, map_format_build, Listing.formats, Listing.formats, Listing.occurrences,
      Listing.occurrences, List.flatMap_append, List.map_append]
    exact eraseDups_prefix_append _ _
  · rw [map_name_build, map_name_build, Listing.advertising, Listing.advertising,
      List.filter_append, List.map_append]
    exact eraseDups_prefix_append _ _

end Snapshot

end Switchboard.Alias
