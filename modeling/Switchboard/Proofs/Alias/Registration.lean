import Mathlib.Tactic
import Switchboard.Alias.Registry

/-!
# The registered formats of a listing

A snapshot is built by putting one alias after the other into it, and one format after the
other into its list of formats. This module says what comes out in terms of the listing alone.

The listing is read as a sequence of occurrences: every alias with a name and formats
contributes those of its formats that are accepted (`Listing.occurrences`). A format that
occurs more than once is registered where it occurs first, for the alias where it occurs
last. `Listing.resolve` walks along the occurrences with this in mind, and looks at no
snapshot.

## Main results

* `putAll_nil`: what items that are put one after the other amount to. Every key keeps the
  place where it came first and gets the item that came last.
* `recognizers_build`: the formats of a snapshot, from the occurrences.
* `resolve_replace`: a new listing is in force at once, and lines are resolved as the listing
  says.
-/

namespace Switchboard.Alias

/-! ### Items by their keys -/

section Put

variable {α : Type} {key : α → String}

/-- Puts items one after the other. -/
def putAll (key : α → String) (all items : List α) : List α :=
  items.foldl (fun all item => put key item all) all

/-- Items are put in place one part after the other. -/
theorem putAll_append (all items items' : List α) :
    putAll key all (items ++ items') = putAll key (putAll key all items) items' :=
  List.foldl_append

/-- The last of some items that has a key. -/
def lastOf (key : α → String) (items : List α) (k : String) : Option α :=
  items.reverse.find? fun item => key item == k

/-- A further item is the last one with its key. -/
theorem lastOf_concat (items : List α) (item : α) :
    lastOf key (items ++ [item]) = Function.update (lastOf key items) (key item) (some item) := by
  funext k
  rw [lastOf, List.reverse_append, List.reverse_singleton, List.singleton_append]
  by_cases h : k = key item
  · subst h
    rw [List.find?_cons_of_pos (by simp), Function.update_self]
  · rw [List.find?_cons_of_neg (by simpa using Ne.symm h), Function.update_of_ne h, lastOf]

/-- The last item with a key is an item with this key. -/
theorem lastOf_eq_some {items : List α} {k : String} {item : α}
    (h : lastOf key items k = some item) : item ∈ items ∧ key item = k :=
  ⟨List.mem_reverse.mp (List.mem_of_find?_eq_some h), by simpa using List.find?_some h⟩

/-- A key that occurs has a last item. -/
theorem exists_lastOf {items : List α} {k : String} (h : k ∈ items.map key) :
    ∃ item, lastOf key items k = some item ∧ key item = k := by
  obtain ⟨item, hitem, rfl⟩ := List.mem_map.mp h
  have hsome : (lastOf key items (key item)).isSome :=
    List.find?_isSome.mpr ⟨item, List.mem_reverse.mpr hitem, beq_self_eq_true _⟩
  obtain ⟨last, hlast⟩ := Option.isSome_iff_exists.mp hsome
  exact ⟨last, hlast, (lastOf_eq_some hlast).2⟩

/-- Where items stand in the order of their keys, a new one takes the place of its key, or the
end. -/
theorem put_filterMap {keys : List String} {item? : String → Option α} (item : α)
    (hnodup : keys.Nodup) (hitem : ∀ k ∈ keys, ∃ old, item? k = some old ∧ key old = k) :
    put key item (keys.filterMap item?) =
      (if key item ∈ keys then keys else keys ++ [key item]).filterMap
        (Function.update item? (key item) (some item)) := by
  induction keys with
  | nil => simp [put]
  | cons k keys ih =>
      obtain ⟨hk, hnodup⟩ := List.nodup_cons.mp hnodup
      obtain ⟨⟨old, hold, hkey⟩, hrest⟩ := List.forall_mem_cons.mp hitem
      rw [List.filterMap_cons_some hold, put, hkey]
      by_cases h : k = key item
      · subst h
        have hsame : keys.filterMap (Function.update item? (key item) (some item)) =
            keys.filterMap item? :=
          List.filterMap_congr fun k' hk' =>
            Function.update_of_ne (by rintro rfl; exact hk hk') _ _
        rw [if_pos rfl, if_pos List.mem_cons_self,
          List.filterMap_cons_some (Function.update_self _ _ _), hsame]
      · have hmem : key item ∈ k :: keys ↔ key item ∈ keys := by simp [Ne.symm h]
        have hcons : (if key item ∈ k :: keys then k :: keys else k :: keys ++ [key item]) =
            k :: if key item ∈ keys then keys else keys ++ [key item] := by
          simp only [hmem, apply_ite (List.cons k), List.cons_append]
        rw [if_neg h, ih hnodup hrest, hcons, List.filterMap_cons_some]
        rwa [Function.update_of_ne h]

/-- No key is left twice. -/
theorem nodup_eraseDups (keys : List String) : keys.eraseDups.Nodup := by
  induction hn : keys.length using Nat.strong_induction_on generalizing keys with
  | _ n ih =>
      cases keys with
      | nil => simp
      | cons k keys =>
          have hlt : (keys.filter fun other => !other == k).length < n :=
            hn ▸ Nat.lt_succ_of_le (List.length_filter_le _ _)
          rw [List.eraseDups_cons, List.nodup_cons]
          exact ⟨by simp [List.mem_eraseDups], ih _ hlt _ rfl⟩

/-- A further key is kept if it is new. -/
theorem eraseDups_concat (keys : List String) (k : String) :
    (keys ++ [k]).eraseDups =
      if k ∈ keys.eraseDups then keys.eraseDups else keys.eraseDups ++ [k] := by
  rw [List.eraseDups_append]
  simp only [List.mem_eraseDups]
  by_cases h : k ∈ keys <;> simp [List.removeAll, List.eraseDups_cons, h]

/-- **Items put one after the other.** Every key has the place where it came first, and the item
that came last. -/
theorem putAll_nil (key : α → String) (items : List α) :
    putAll key [] items = (items.map key).eraseDups.filterMap (lastOf key items) := by
  induction items using List.reverseRecOn with
  | nil => rfl
  | append_singleton items item ih =>
      have hitem : ∀ k ∈ (items.map key).eraseDups,
          ∃ old, lastOf key items k = some old ∧ key old = k :=
        fun k hk => exists_lastOf (List.mem_eraseDups.mp hk)
      rw [putAll_append, ih, putAll, List.foldl_cons, List.foldl_nil,
        put_filterMap item (nodup_eraseDups _) hitem, List.map_append, List.map_singleton,
        eraseDups_concat, lastOf_concat]

section Images

variable {β : Type} {key' : β → String} {f : α → Option β} {items : List α}

/-- Items that are replaced one by one, each by one with the same key. -/
theorem map_filterMap_of_key (hf : ∀ a ∈ items, ∃ b, f a = some b ∧ key' b = key a) :
    (items.filterMap f).map key' = items.map key := by
  induction items with
  | nil => rfl
  | cons a items ih =>
      obtain ⟨⟨b, hb, hkey⟩, hrest⟩ := List.forall_mem_cons.mp hf
      rw [List.filterMap_cons_some hb, List.map_cons, List.map_cons, hkey, ih hrest]

/-- The last items with a key correspond, when the items do. -/
theorem lastOf_filterMap (hf : ∀ a ∈ items, ∃ b, f a = some b ∧ key' b = key a) (k : String) :
    lastOf key' (items.filterMap f) k = (lastOf key items k).bind f := by
  have hany : ∀ a ∈ items.reverse, ((f a).any fun b => key' b == k) = (key a == k) := by
    intro a ha
    obtain ⟨b, hb, hkey⟩ := hf a (List.mem_reverse.mp ha)
    rw [hb, Option.any_some, hkey]
  rw [lastOf, ← List.filterMap_reverse, List.find?_filterMap, List.find?_congr hany, lastOf]

end Images

end Put

/-! ### Formats -/

namespace Format

/-- The pattern of a format, if the format is accepted. -/
def pattern? (format : String) : Option Pattern :=
  if format.isEmpty then none else (Pattern.compile (pattern format)).toOption

/-- Whether a format is accepted and recognizes a text. -/
def recognizes (format text : String) : Bool :=
  (pattern? format).any fun pattern => pattern.isMatch text.toList

end Format

/-- Whether a format is accepted does not depend on its alias. -/
theorem Recognizer.toOption_compile (owner format : String) :
    (compile owner format).toOption =
      (Format.pattern? format).map fun pattern =>
        ⟨format, owner, Format.placeholders format, pattern⟩ := by
  unfold compile Format.pattern?
  split
  · rfl
  · cases Pattern.compile (Format.pattern format) <;> rfl

/-! ### Occurrences -/

/-- A format that an alias advertises and that is accepted. -/
structure Occurrence where
  owner : String
  format : String
  deriving DecidableEq, Repr

/-- The recognizer of an occurrence. -/
def Occurrence.recognizer? (occurrence : Occurrence) : Option Recognizer :=
  (Recognizer.compile occurrence.owner occurrence.format).toOption

/-- The occurrences in an alias. An alias without a name or without formats has none. -/
def Definition.occurrences (definition : Definition) : List Occurrence :=
  if Text.isBlankText definition.name ∨ definition.formats = [] then []
  else
    (definition.formats.filter fun format => (Format.pattern? format).isSome).map
      fun format => ⟨definition.name, format⟩

namespace Listing

/-- The occurrences in a listing, in order. -/
def occurrences (listing : List Definition) : List Occurrence :=
  listing.flatMap Definition.occurrences

/-- The formats of a listing, each at the place of its first occurrence. -/
def formats (listing : List Definition) : List String :=
  ((occurrences listing).map Occurrence.format).eraseDups

/-- The alias of the last occurrence of a format. -/
def owner? (listing : List Definition) (format : String) : Option String :=
  (lastOf Occurrence.format (occurrences listing) format).map Occurrence.owner

/-- How a listing resolves a line: the first of its formats that recognizes the line in lower case,
for the alias that advertises it last. A blank line is no command. -/
def resolve (listing : List Definition) (line : String) : Option Resolved :=
  if Text.isBlankText line then none
  else
    let command := Unicode.Case.lowercase line
    ((formats listing).find? fun format => Format.recognizes format command).bind fun format =>
      (owner? listing format).map fun owner => ⟨owner, format, command⟩

end Listing

/-! ### Snapshots of listings -/

/-- A definition is valid if it has a name and at least one format. -/
theorem Definition.validate_eq_ok_iff {definition : Definition} :
    definition.validate = .ok () ↔
      ¬ (Text.isBlankText definition.name ∨ definition.formats = []) := by
  unfold validate
  grind

/-- An occurrence in an alias has a recognizer, which tells the occurrence. -/
theorem Definition.recognizer?_of_mem {definition : Definition} {occurrence : Occurrence}
    (h : occurrence ∈ definition.occurrences) :
    ∃ pattern, Format.pattern? occurrence.format = some pattern ∧
      occurrence.recognizer? = some ⟨occurrence.format, occurrence.owner,
        Format.placeholders occurrence.format, pattern⟩ := by
  unfold Definition.occurrences at h
  split at h
  · exact absurd h List.not_mem_nil
  · obtain ⟨format, hformat, rfl⟩ := List.mem_map.mp h
    obtain ⟨pattern, hpattern⟩ := Option.isSome_iff_exists.mp (List.mem_filter.mp hformat).2
    refine ⟨pattern, hpattern, ?_⟩
    rw [Occurrence.recognizer?, Recognizer.toOption_compile, hpattern]
    rfl

/-- The recognizers of a valid alias are those of its occurrences. -/
theorem Snapshot.recognizersOf_eq {definition : Definition}
    (h : ¬ (Text.isBlankText definition.name ∨ definition.formats = [])) :
    recognizersOf definition = definition.occurrences.filterMap Occurrence.recognizer? := by
  rw [Definition.occurrences, if_neg h, List.filterMap_map, List.filterMap_filter, recognizersOf]
  refine List.filterMap_congr fun format _ => ?_
  rw [Function.comp_apply, Occurrence.recognizer?, Recognizer.toOption_compile]
  cases Format.pattern? format <;> rfl

/-- One alias puts its recognizers behind those that are there. -/
theorem Snapshot.recognizers_add (snapshot : Snapshot) (definition : Definition) :
    (snapshot.add definition).recognizers =
      putAll Recognizer.format snapshot.recognizers
        (definition.occurrences.filterMap Occurrence.recognizer?) := by
  by_cases h : Text.isBlankText definition.name ∨ definition.formats = []
  · rw [Definition.occurrences, if_pos h, add]
    split
    · next hvalid _ => exact absurd h (Definition.validate_eq_ok_iff.mp hvalid)
    · rfl
  · rw [← recognizersOf_eq h, add, Definition.validate_eq_ok_iff.mpr h]
    cases recognizersOf definition <;> rfl

/-- Adding definitions puts the recognizers of their formats in place. -/
theorem Snapshot.recognizers_foldl_add (listing : List Definition) (snapshot : Snapshot) :
    (listing.foldl add snapshot).recognizers =
      putAll Recognizer.format snapshot.recognizers
        ((Listing.occurrences listing).filterMap Occurrence.recognizer?) := by
  induction listing generalizing snapshot with
  | nil => rfl
  | cons definition listing ih =>
      rw [List.foldl_cons, ih, recognizers_add, ← putAll_append, ← List.filterMap_append]
      rfl

/-- **Every format** that is advertised compiles. -/
theorem Listing.recognizer?_of_mem {listing : List Definition} {occurrence : Occurrence}
    (h : occurrence ∈ occurrences listing) :
    ∃ pattern, Format.pattern? occurrence.format = some pattern ∧
      occurrence.recognizer? = some ⟨occurrence.format, occurrence.owner,
        Format.placeholders occurrence.format, pattern⟩ := by
  obtain ⟨definition, -, hmem⟩ := List.mem_flatMap.mp h
  exact definition.recognizer?_of_mem hmem

/-- Every format that is advertised has a recognizer for its own text. -/
theorem Listing.exists_recognizer {listing : List Definition} {occurrence : Occurrence}
    (h : occurrence ∈ occurrences listing) :
    ∃ recognizer, occurrence.recognizer? = some recognizer ∧
      recognizer.format = occurrence.format := by
  obtain ⟨pattern, -, hrecognizer⟩ := recognizer?_of_mem h
  exact ⟨_, hrecognizer, rfl⟩

/-- **The formats of a snapshot.** Each format is registered at the place of its first occurrence,
with the recognizer of its last one. -/
theorem Snapshot.recognizers_build (listing : List Definition) (time : Nat) :
    (build listing time).recognizers =
      (Listing.formats listing).filterMap fun format =>
        (lastOf Occurrence.format (Listing.occurrences listing) format).bind
          Occurrence.recognizer? := by
  rw [build, recognizers_foldl_add, empty, putAll_nil,
    map_filterMap_of_key fun _ => Listing.exists_recognizer, Listing.formats]
  exact List.filterMap_congr fun format _ =>
    lastOf_filterMap (fun _ => Listing.exists_recognizer) format

/-! ### Resolution -/

/-- What a listing has registered for one of its formats. -/
theorem Listing.exists_last {listing : List Definition} {format : String}
    (h : format ∈ formats listing) :
    ∃ owner pattern, owner? listing format = some owner ∧ Format.pattern? format = some pattern ∧
      (lastOf Occurrence.format (occurrences listing) format).bind Occurrence.recognizer? =
        some ⟨format, owner, Format.placeholders format, pattern⟩ := by
  obtain ⟨occurrence, hlast, rfl⟩ := exists_lastOf (List.mem_eraseDups.mp h)
  obtain ⟨pattern, hpattern, hrecognizer⟩ := recognizer?_of_mem (lastOf_eq_some hlast).1
  refine ⟨occurrence.owner, pattern, by rw [owner?, hlast, Option.map_some], hpattern, ?_⟩
  rw [hlast, Option.bind_some, hrecognizer]

/-- The recognizers of a listing recognize what its formats do. -/
theorem Listing.any_recognizer {listing : List Definition} {format : String}
    (h : format ∈ formats listing) (text : String) :
    ((lastOf Occurrence.format (occurrences listing) format).bind Occurrence.recognizer?).any
        (fun recognizer => recognizer.isMatch text) = Format.recognizes format text := by
  obtain ⟨owner, pattern, -, hpattern, hrecognizer⟩ := exists_last h
  rw [hrecognizer, Format.recognizes, hpattern, Option.any_some, Option.any_some,
    Recognizer.isMatch]

/-- **Resolution.** As soon as a listing has replaced the commands, a line is resolved to the first
format of the listing that recognizes it in lower case, for the alias that advertises the format
last. -/
theorem Registry.resolve_replace (registry : Registry) (listing : List Definition) (line : String) :
    (registry.replace listing).resolve line = Listing.resolve listing line := by
  simp only [resolve, replace, Snapshot.resolve, Listing.resolve]
  split
  · rfl
  · next hblank =>
      rw [Snapshot.firstMatch, Snapshot.recognizers_build, List.find?_filterMap,
        List.find?_congr fun format h => Listing.any_recognizer h _]
      cases hfind : (Listing.formats listing).find? fun format =>
          Format.recognizes format (Unicode.Case.lowercase line) with
      | none => rfl
      | some format =>
          obtain ⟨owner, pattern, howner, -, hrecognizer⟩ :=
            Listing.exists_last (List.mem_of_find?_eq_some hfind)
          rw [Option.bind_some, Option.bind_some, hrecognizer, howner]
          rfl

/-- A format that is repeated keeps its first place and gets its last owner. -/
example :
    Listing.resolve [{ name := "first", formats := ["stop", "go"] },
        { name := " ", formats := ["go"] }, { name := "second", formats := ["(", "stop"] }] "STOP" =
      some ⟨"second", "stop", "stop"⟩ := by decide +kernel

end Switchboard.Alias
