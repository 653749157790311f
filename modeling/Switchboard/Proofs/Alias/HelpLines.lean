import Switchboard.Proofs.Alias.Snapshots

/-!
# Lines of help

There is one line of help for every registered format. What it says behind the format is looked up
under the name of the alias for which the format is registered, which is the last one in the listing
that advertises the format. What is registered under this name, though, is the last alias of the name
that advertises anything (`Listing.LastNamed`). The two are the same alias as long as its name is not
repeated behind it; where it is, the line describes the format with the words of the later alias.

## Main results

* `Listing.lastOf_occurrences`: the last occurrence of a format is in the last alias that advertises it.
* `Snapshot.helpEntries_describe`: what every line of help says.
-/

namespace Switchboard.Alias

/-! ### The last alias that advertises a format -/

/-- The last item with a key is in the second part, unless only the first part has one. -/
theorem lastOf_append {α : Type} {key : α → String} (items items' : List α) (k : String) :
    lastOf key (items ++ items') k = (lastOf key items' k).or (lastOf key items k) := by
  rw [lastOf, List.reverse_append, List.find?_append, lastOf, lastOf]

namespace Definition

/-- Whether an alias advertises a format. -/
def advertises (definition : Definition) (format : String) : Bool :=
  definition.occurrences.any fun occurrence => occurrence.format == format

/-- The check whether a definition advertises a format. -/
theorem advertises_iff {definition : Definition} {format : String} :
    definition.advertises format ↔ definition.Advertises format := by
  simp only [advertises, List.any_eq_true, beq_iff_eq, mem_occurrences_iff]
  constructor
  · rintro ⟨occurrence, ⟨-, h⟩, rfl⟩
    exact h
  · intro h
    exact ⟨⟨definition.name, format⟩, ⟨rfl, h⟩, rfl⟩

/-- All occurrences of a format in an alias are the same. -/
theorem lastOf_occurrences (definition : Definition) (format : String) :
    lastOf Occurrence.format definition.occurrences format =
      if definition.advertises format then some ⟨definition.name, format⟩ else none := by
  cases hlast : lastOf Occurrence.format definition.occurrences format with
  | some occurrence =>
      obtain ⟨hmem, rfl⟩ := lastOf_eq_some hlast
      obtain ⟨howner, hadvertises⟩ := mem_occurrences_iff.mp hmem
      rw [if_pos (advertises_iff.mpr hadvertises), ← howner]
  | none =>
      rw [if_neg]
      intro hadvertises
      have hmem : (⟨definition.name, format⟩ : Occurrence) ∈ definition.occurrences :=
        mem_occurrences_iff.mpr ⟨rfl, advertises_iff.mp hadvertises⟩
      obtain ⟨_, hsome, -⟩ := exists_lastOf (List.mem_map_of_mem (f := Occurrence.format) hmem)
      exact absurd (hlast.symm.trans hsome) (by simp)

end Definition

namespace Listing

/-- The last alias in a listing that advertises a format. -/
def LastAdvertising (listing : List Definition) (format : String) (definition : Definition) : Prop :=
  definition.Advertises format ∧ ∃ front back, listing = front ++ definition :: back ∧
    ∀ later ∈ back, ¬ later.Advertises format

/-- The last alias of a name in a listing that advertises anything. -/
def LastNamed (listing : List Definition) (name : String) (definition : Definition) : Prop :=
  ((∃ format, definition.Advertises format) ∧ definition.name = name) ∧
    ∃ front back, listing = front ++ definition :: back ∧
      ∀ later ∈ back, (∃ format, later.Advertises format) → later.name ≠ name

/-- Looking through a listing from its end finds the last definition that advertises a format. -/
theorem find?_advertises_eq_some_iff {listing : List Definition} {format : String}
    {definition : Definition} :
    listing.reverse.find? (fun definition => definition.advertises format) = some definition ↔
      LastAdvertising listing format definition := by
  rw [find?_reverse_eq_some_iff, LastAdvertising]
  simp only [Definition.advertises_iff]

/-- The last occurrence of a format is in the last alias that advertises it. -/
theorem lastOf_occurrences (listing : List Definition) (format : String) :
    lastOf Occurrence.format (occurrences listing) format =
      (listing.reverse.find? fun definition => definition.advertises format).map fun definition =>
        ⟨definition.name, format⟩ := by
  induction listing using List.reverseRecOn with
  | nil => rfl
  | append_singleton listing definition ih =>
      have hoccurrences : occurrences (listing ++ [definition]) =
          occurrences listing ++ definition.occurrences := by
        rw [occurrences, List.flatMap_append, List.flatMap_singleton, occurrences]
      rw [hoccurrences, lastOf_append, Definition.lastOf_occurrences, ih, List.reverse_append,
        List.reverse_singleton, List.singleton_append, List.find?_cons]
      cases definition.advertises format <;> rfl

end Listing

/-! ### What a line says -/

/-- A line of help for a format with a description. One that is blank is left out. -/
def helpLine (bot format : String) (description : Option String) : String :=
  match description.filter fun text => !Text.isBlankText text with
  | some text => bot ++ " " ++ format ++ " - " ++ text
  | none => bot ++ " " ++ format

namespace Snapshot

/-- The line for a format tells what is registered under the name of its alias. -/
theorem helpEntry_eq_helpLine {snapshot : Snapshot} {recognizer : Recognizer}
    {definition : Definition} (h : snapshot.alias? recognizer.owner = some definition)
    (bot : String) :
    snapshot.helpEntry bot recognizer = helpLine bot recognizer.format definition.description := by
  rw [helpEntry, description?, h, Option.bind_some]
  rfl

/-- A snapshot keeps the last definition of each name. -/
theorem alias?_eq_some_iff {listing : List Definition} {time : Nat} {name : String}
    {definition : Definition} :
    (build listing time).alias? name = some definition ↔
      Listing.LastNamed listing name definition := by
  rw [alias?_build, Listing.advertising, lastOf_filter_eq_some_iff, Listing.LastNamed]
  simp only [Definition.exists_occurrence_iff]

/-- A format is registered for the last alias that advertises it. -/
theorem exists_lastAdvertising {listing : List Definition} {time : Nat} {recognizer : Recognizer}
    (h : recognizer ∈ (build listing time).recognizers) :
    ∃ definition, Listing.LastAdvertising listing recognizer.format definition ∧
      recognizer.owner = definition.name := by
  have hfound := mem_recognizers_iff.mp h
  rw [recognizer?_build, Listing.lastOf_occurrences, Option.bind_eq_some_iff] at hfound
  obtain ⟨occurrence, hlast, hrecognizer⟩ := hfound
  obtain ⟨definition, hfind, rfl⟩ := Option.map_eq_some_iff.mp hlast
  obtain ⟨pattern, -, heq⟩ :=
    Recognizer.compile_eq_ok_iff.mp (Occurrence.recognizer?_eq_some_iff.mp hrecognizer)
  exact ⟨definition, Listing.find?_advertises_eq_some_iff.mp hfind, congrArg Recognizer.owner heq⟩

/-- **Lines of help.** There is one line for every registered format, in the same order. It names the
bot and the format, and describes the format with the description, if there is one that is not blank,
of the last alias that advertises anything and has the name of the last alias that advertises the
format. This is the same alias, unless its name is repeated behind it by one that advertises
anything. -/
theorem helpEntries_describe (listing : List Definition) (time : Nat) (bot : String) :
    List.Forall₂
      (fun format line => ∃ definition named,
        Listing.LastAdvertising listing format definition ∧
        Listing.LastNamed listing definition.name named ∧
        line = helpLine bot format named.description ∧
        (Listing.LastNamed listing definition.name definition →
          line = helpLine bot format definition.description))
      ((build listing time).recognizers.map Recognizer.format)
      ((build listing time).helpEntries bot) := by
  rw [helpEntries, List.forall₂_map_left_iff, List.forall₂_map_right_iff, List.forall₂_same]
  intro recognizer hmem
  obtain ⟨definition, hlast, howner⟩ := exists_lastAdvertising hmem
  obtain ⟨named, hnamed⟩ := exists_alias_of_mem hmem
  have hline := helpEntry_eq_helpLine hnamed bot
  rw [howner] at hnamed
  refine ⟨definition, named, hlast, alias?_eq_some_iff.mp hnamed, hline, fun hself => ?_⟩
  have hsame := hnamed.symm.trans (alias?_eq_some_iff.mpr hself)
  rw [hline, Option.some.inj hsame]

/-- A format whose alias is followed by another one of its name gets the words of the other one. -/
theorem helpEntries_repeated_name :
    ∃ definition other : Definition,
      definition = ⟨"deploy", some "Deploy an application", ["deploy {{app}}"]⟩ ∧
      other = ⟨"deploy", some "Ship a release", ["ship {{release}}"]⟩ ∧
      Listing.LastAdvertising [definition, other] "deploy {{app}}" definition ∧
      (build [definition, other] 1).helpEntries "hubot" =
        ["hubot deploy {{app}} - Ship a release", "hubot ship {{release}} - Ship a release"] ∧
      (build [definition, other] 1).helpEntries "hubot" ≠
        [helpLine "hubot" "deploy {{app}}" definition.description,
          helpLine "hubot" "ship {{release}}" other.description] := by
  refine ⟨_, _, rfl, rfl, ?_, ?_⟩
  · exact Listing.find?_advertises_eq_some_iff.mp (by decide +kernel)
  · decide +kernel

end Snapshot

end Switchboard.Alias
