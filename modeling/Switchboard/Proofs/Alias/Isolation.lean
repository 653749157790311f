import Mathlib.Logic.Relation
import Switchboard.Proofs.Alias.Registration
import Switchboard.Proofs.Alias.Listings

/-!
# Faults in a listing stay where they are

An entry of a listing that nothing can be registered for is passed over, and so is what cannot be
used inside of an entry. This module makes precise that neither has an effect on anything else.

A listing is compared with one that has more faults (`Listing.Change`). What a snapshot takes from
an alias is its offer: the name, the description and the formats that compile. A snapshot shows
nothing but the offers it was built from (`Snapshot.view_build`), and no change touches the offers
of a listing (`Listing.offers_eq_of_change`).

## Main results

* `view_build`: what a snapshot shows, from the offers alone.
* `firstMatch_congr`, `helpEntries_congr`: what is shown determines matches and help.
* `Listing.offers_eq_of_changes`: changes keep the offers.
* `Listing.faults_isolated`: snapshots before and after changes cannot be told apart.
-/

namespace Switchboard.Alias

open Json (Value Members)

/-! ### Offers -/

/-- What a snapshot takes from an alias. -/
structure Offer where
  name : String
  description : Option String
  recognizers : List Recognizer

/-- The offer of an alias that has a name and a format that compiles. -/
def Definition.offer? (definition : Definition) : Option Offer :=
  if Text.isBlankText definition.name || (Snapshot.recognizersOf definition).isEmpty then none
  else some ⟨definition.name, definition.description, Snapshot.recognizersOf definition⟩

/-- What a snapshot shows: the formats, and the names of the aliases with their descriptions. -/
structure View where
  recognizers : List Recognizer := []
  descriptions : List (String × Option String) := []

/-- Adds an offer to what is shown. -/
def View.add (view : View) (offer : Offer) : View where
  recognizers := putAll Recognizer.format view.recognizers offer.recognizers
  descriptions := put Prod.fst (offer.name, offer.description) view.descriptions

namespace Snapshot

variable {snapshot snapshot' : Snapshot}

/-- What a snapshot shows. -/
def view (snapshot : Snapshot) : View where
  recognizers := snapshot.recognizers
  descriptions := snapshot.aliases.map fun definition => (definition.name, definition.description)

/-- Putting an item in place and mapping may be exchanged, if the mapping keeps the keys. -/
theorem map_put {α β : Type} {key : α → String} {key' : β → String} {f : α → β}
    (hkey : ∀ a, key' (f a) = key a) (item : α) (all : List α) :
    (put key item all).map f = put key' (f item) (all.map f) := by
  induction all with
  | nil => rfl
  | cons old all ih =>
      rw [List.map_cons, put, put, hkey, hkey]
      split
      · rfl
      · rw [List.map_cons, ih]

/-- An alias adds its offer, and nothing if it has none. -/
theorem view_add (snapshot : Snapshot) (definition : Definition) :
    (snapshot.add definition).view = definition.offer?.elim snapshot.view snapshot.view.add := by
  unfold Definition.offer? add Definition.validate
  cases hblank : Text.isBlankText definition.name with
  | true => rfl
  | false =>
      cases hrecognizers : recognizersOf definition with
      | nil => split <;> first | rfl | contradiction
      | cons first rest =>
          have hformats : definition.formats.isEmpty = false := by
            cases hnil : definition.formats with
            | nil => simp [recognizersOf, hnil] at hrecognizers
            | cons format formats => rfl
          have hkey : ∀ definition : Definition,
              (definition.name, definition.description).1 = definition.name := fun _ => rfl
          rw [hformats]
          simp only [view, Bool.false_eq_true, if_false, Bool.false_or, List.isEmpty_cons,
            Option.elim_some, View.add, putAll]
          rw [map_put hkey]

/-- **What a snapshot shows** is what the offers of its listing add up to. -/
theorem view_build (listing : List Definition) (time : Nat) :
    (build listing time).view = (listing.filterMap Definition.offer?).foldl View.add {} := by
  have hfold (snapshot : Snapshot) : (listing.foldl add snapshot).view =
      (listing.filterMap Definition.offer?).foldl View.add snapshot.view := by
    induction listing generalizing snapshot with
    | nil => rfl
    | cons definition listing ih =>
        rw [List.foldl_cons, ih, view_add, List.filterMap_cons]
        cases definition.offer? <;> rfl
  exact hfold (empty time)

/-- The first match is a matter of what is seen of a snapshot. -/
theorem firstMatch_congr (h : snapshot.view = snapshot'.view) (text : String) :
    snapshot.firstMatch text = snapshot'.firstMatch text := by
  have hrecognizers : snapshot.recognizers = snapshot'.recognizers := congrArg View.recognizers h
  rw [firstMatch, firstMatch, hrecognizers]

/-- The description of an alias is a matter of what is seen of a snapshot; a blank one counts as
none. -/
theorem description?_eq (snapshot : Snapshot) (name : String) :
    snapshot.description? name =
      ((snapshot.view.descriptions.find? fun entry => entry.1 == name).bind Prod.snd).filter
        fun text => !Text.isBlankText text := by
  rw [description?, alias?, view, List.find?_map, Option.bind_map]
  rfl

/-- The lines of the help are a matter of what is seen of a snapshot. -/
theorem helpEntries_congr (h : snapshot.view = snapshot'.view) (bot : String) :
    snapshot.helpEntries bot = snapshot'.helpEntries bot := by
  have hrecognizers : snapshot.recognizers = snapshot'.recognizers := congrArg View.recognizers h
  have hentry : snapshot.helpEntry bot = snapshot'.helpEntry bot := by
    funext recognizer
    rw [helpEntry, helpEntry, description?_eq, description?_eq, h]
  rw [helpEntries, helpEntries, hrecognizers, hentry]

end Snapshot

/-! ### Faults -/

namespace Listing

/-- A value among the formats of an entry that is no format: no string, an empty one, or one that
does not compile. -/
def IsNoFormat (item : Value) : Prop :=
  ∀ format, item = .string format → Format.pattern? format = none

/-- An entry of a listing that nothing can be registered for. -/
inductive Useless : Value → Prop
  | notObject {entry : Value} (h : ∀ members, entry ≠ .object members) : Useless entry
  | nameless {members : Members}
      (h : ∀ name, Members.get? members "name" ≠ some (.string name)) : Useless (.object members)
  | blankName {members : Members} {name : String}
      (h : Members.get? members "name" = some (.string name)) (hblank : Text.isBlankText name) :
      Useless (.object members)
  | formatless {members : Members}
      (h : ∀ items, Members.get? members "formats" = some (.array items) →
        ∀ item ∈ items, IsNoFormat item) : Useless (.object members)

/-- A listing gets one more fault. -/
inductive Change : List Value → List Value → Prop
  /-- A useless entry stands anywhere in the listing. -/
  | entry (before after : List Value) {entry : Value} (h : Useless entry) :
      Change (before ++ after) (before ++ entry :: after)
  /-- What is no format stands anywhere among the formats of an entry. -/
  | format (before after : List Value) {members members' : Members} {front back : List Value}
      {item : Value} (h : IsNoFormat item)
      (hold : Members.get? members "formats" = some (.array (front ++ back)))
      (hnew : Members.get? members' = Function.update (Members.get? members) "formats"
        (some (.array (front ++ item :: back)))) :
      Change (before ++ .object members :: after) (before ++ .object members' :: after)
  /-- An entry without a description has one that is no string. -/
  | description (before after : List Value) {members members' : Members} {value : Value}
      (h : ∀ text, value ≠ .string text) (hold : Members.get? members "description" = none)
      (hnew : Members.get? members' =
        Function.update (Members.get? members) "description" (some value)) :
      Change (before ++ .object members :: after) (before ++ .object members' :: after)

/-- The offer of an entry. -/
def offer? (entry : Value) : Option Offer := (Definition.ofEntry? entry).bind Definition.offer?

/-- The offers of a listing, in order. -/
def offers (entries : List Value) : List Offer :=
  (entries.filterMap Definition.ofEntry?).filterMap Definition.offer?

/-- What a listing offers, entry by entry. -/
theorem offers_eq (entries : List Value) : offers entries = entries.filterMap offer? :=
  List.filterMap_filterMap

/-- An item that stands for nothing can be put in anywhere. -/
theorem filterMap_insert {α β : Type} {f : α → Option β} {a : α} (h : f a = none)
    (front back : List α) : (front ++ a :: back).filterMap f = (front ++ back).filterMap f := by
  rw [List.filterMap_append, List.filterMap_append, List.filterMap_cons_none h]

/-- The recognizer of a value among the formats of an entry. -/
def recognizer? (name : String) (item : Value) : Option Recognizer :=
  item.string?.bind fun format => (Recognizer.compile name format).toOption

/-- The recognizers of a definition come from the items of its list of formats one by one. -/
theorem recognizersOf_items (name : String) (description : Option String) (items : List Value) :
    Snapshot.recognizersOf ⟨name, description, items.filterMap Value.string?⟩ =
      items.filterMap (recognizer? name) :=
  List.filterMap_filterMap

/-- An item that is no format gives no recognizer. -/
theorem recognizer?_of_isNoFormat {item : Value} (h : IsNoFormat item) (name : String) :
    recognizer? name item = none := by
  rw [recognizer?]
  cases hstring : item.string? with
  | none => rfl
  | some format =>
      have hpattern := h format (Value.string?_eq_some_iff.mp hstring)
      rw [Option.bind_some, Recognizer.toOption_compile, hpattern, Option.map_none]

/-- A useless entry offers nothing. -/
theorem offer?_of_useless {entry : Value} (h : Useless entry) : offer? entry = none := by
  cases h with
  | notObject h =>
      cases entry with
      | object members => exact absurd rfl (h members)
      | null => rfl
      | bool b => rfl
      | number n => rfl
      | string s => rfl
      | array items => rfl
  | nameless h =>
      rw [offer?, Definition.ofEntry?, Value.get?]
      split
      · next hname => exact absurd hname (h _)
      · rfl
  | blankName h hblank =>
      rw [offer?, Definition.ofEntry?, Value.get?, h]
      simp only [Option.bind_some, Definition.offer?, hblank, Bool.true_or, if_true]
  | formatless h =>
      rw [offer?, Definition.ofEntry?, Value.get?]
      split
      · next name hname =>
          rw [Option.bind_some, Definition.offer?]
          refine if_pos ?_
          rw [Bool.or_eq_true]
          refine .inr ?_
          split
          · next items hitems =>
              rw [recognizersOf_items, List.isEmpty_iff, List.filterMap_eq_nil_iff]
              exact fun item hitem => recognizer?_of_isNoFormat (h items hitems item hitem) name
          · rfl
      · rfl

/-- **An item that is no format** may be put anywhere into a list of formats: the entry offers what
it offered before. -/
theorem offer?_of_format {members members' : Members} {front back : List Value} {item : Value}
    (h : IsNoFormat item)
    (hold : Members.get? members "formats" = some (.array (front ++ back)))
    (hnew : Members.get? members' = Function.update (Members.get? members) "formats"
      (some (.array (front ++ item :: back)))) :
    offer? (.object members') = offer? (.object members) := by
  have hname : Members.get? members' "name" = Members.get? members "name" := by
    rw [hnew, Function.update_of_ne (by decide)]
  have hdescription : Members.get? members' "description" = Members.get? members "description" := by
    rw [hnew, Function.update_of_ne (by decide)]
  have hformats : Members.get? members' "formats" = some (.array (front ++ item :: back)) := by
    rw [hnew, Function.update_self]
  simp only [offer?, Definition.ofEntry?, Value.get?, hname, hdescription, hformats, hold]
  split
  · next name _ =>
      simp only [Option.bind_some, Definition.offer?, recognizersOf_items,
        filterMap_insert (recognizer?_of_isNoFormat h name)]
  · rfl

/-- A description that is no string counts as none. -/
theorem offer?_of_description {members members' : Members} {value : Value}
    (h : ∀ text, value ≠ .string text) (hold : Members.get? members "description" = none)
    (hnew : Members.get? members' =
      Function.update (Members.get? members) "description" (some value)) :
    offer? (.object members') = offer? (.object members) := by
  have hname : Members.get? members' "name" = Members.get? members "name" := by
    rw [hnew, Function.update_of_ne (by decide)]
  have hformats : Members.get? members' "formats" = Members.get? members "formats" := by
    rw [hnew, Function.update_of_ne (by decide)]
  have hdescription : Members.get? members' "description" = some value := by
    rw [hnew, Function.update_self]
  have hvalue : value.string? = none :=
    Option.eq_none_iff_forall_ne_some.mpr fun text htext =>
      h text (Value.string?_eq_some_iff.mp htext)
  simp only [offer?, Definition.ofEntry?, Value.get?, hname, hdescription, hformats, hold,
    Option.bind_some, hvalue, Option.bind_none]

/-- **One change** keeps the offers of a listing. -/
theorem offers_eq_of_change {entries entries' : List Value} (h : Change entries entries') :
    offers entries' = offers entries := by
  rw [offers_eq, offers_eq]
  cases h with
  | entry before after h => exact filterMap_insert (offer?_of_useless h) before after
  | format before after h hold hnew =>
      rw [List.filterMap_append, List.filterMap_append, List.filterMap_cons, List.filterMap_cons,
        offer?_of_format h hold hnew]
  | description before after h hold hnew =>
      rw [List.filterMap_append, List.filterMap_append, List.filterMap_cons, List.filterMap_cons,
        offer?_of_description h hold hnew]

/-- **Any number of changes** keeps them. -/
theorem offers_eq_of_changes {entries entries' : List Value}
    (h : Relation.ReflTransGen Change entries entries') : offers entries' = offers entries := by
  induction h with
  | refl => rfl
  | tail _ hchange ih => rw [offers_eq_of_change hchange, ih]

/-- **Isolation of faults.** Let a listing get any number of faults: entries that nothing can be
registered for, values among the formats of an entry that are no formats, and descriptions that
are no strings. Both listings are decoded from every text of theirs that keeps to the nesting
limit, and the snapshots of the two have

* the same formats for the same aliases, in the same order,
* the same aliases with the same descriptions, in the same order,
* the same help for every name of the bot, and
* the same first match for every line. -/
theorem faults_isolated {entries entries' : List Value}
    (hchanges : Relation.ReflTransGen Change entries entries') {text text' : String}
    (htext : Json.IsDocument Value.maxLevels (.array entries) (Text.Utf8.encode text))
    (htext' : Json.IsDocument Value.maxLevels (.array entries') (Text.Utf8.encode text')) :
    ∃ listing listing', decode text = .ok listing ∧ decode text' = .ok listing' ∧
      ∀ time time',
        (Snapshot.build listing' time').recognizers = (Snapshot.build listing time).recognizers ∧
        ((Snapshot.build listing' time').aliases.map fun definition =>
            (definition.name, definition.description)) =
          ((Snapshot.build listing time).aliases.map fun definition =>
            (definition.name, definition.description)) ∧
        (∀ bot, (Snapshot.build listing' time').helpEntries bot =
          (Snapshot.build listing time).helpEntries bot) ∧
        ∀ line, (Snapshot.build listing' time').firstMatch line =
          (Snapshot.build listing time).firstMatch line := by
  refine ⟨_, _, decode_of_isDocument htext, decode_of_isDocument htext', fun time time' => ?_⟩
  have hoffers := offers_eq_of_changes hchanges
  have hview : (Snapshot.build (entries'.filterMap Definition.ofEntry?) time').view =
      (Snapshot.build (entries.filterMap Definition.ofEntry?) time).view := by
    rw [Snapshot.view_build, Snapshot.view_build]
    exact congrArg (List.foldl View.add {}) hoffers
  exact ⟨congrArg View.recognizers hview, congrArg View.descriptions hview,
    Snapshot.helpEntries_congr hview, Snapshot.firstMatch_congr hview⟩

/-- A listing of one alias, and the same listing with a fault of each kind. -/
theorem faults_isolated_deploy :
    ∃ listing listing',
      decode "[\x7b\"name\":\"deploy\",\"formats\":[\"go\"]\x7d]" = .ok listing ∧
      decode ("[null,\x7b\"name\":\"deploy\",\"formats\":[\"(\",\"go\"]," ++
        "\"description\":[]\x7d]") = .ok listing' ∧
      ∀ time time',
        (Snapshot.build listing' time').recognizers = (Snapshot.build listing time).recognizers ∧
        ((Snapshot.build listing' time').aliases.map fun definition =>
            (definition.name, definition.description)) =
          ((Snapshot.build listing time).aliases.map fun definition =>
            (definition.name, definition.description)) ∧
        (∀ bot, (Snapshot.build listing' time').helpEntries bot =
          (Snapshot.build listing time).helpEntries bot) ∧
        ∀ line, (Snapshot.build listing' time').firstMatch line =
          (Snapshot.build listing time).firstMatch line := by
  let named : Members := [("name", .string "deploy"), ("formats", .array [.string "go"])]
  let wrong : Members :=
    [("name", .string "deploy"), ("formats", .array [.string "(", .string "go"])]
  let described : Members :=
    [("name", .string "deploy"), ("formats", .array [.string "(", .string "go"]),
      ("description", .array [])]
  have hformat : IsNoFormat (.string "(") := by
    intro format h
    obtain rfl := Value.string.inj h
    decide +kernel
  have hold : Members.get? named "formats" = some (.array ([] ++ [.string "go"])) := rfl
  have hwrong : Change [.object named] [.object wrong] :=
    .format [] [] hformat hold (Members.get?_insert named "formats" _)
  have hvalue : ∀ text, Value.array [] ≠ .string text := by simp
  have hdescribed : Change [.object wrong] [.object described] :=
    .description [] [] hvalue rfl (Members.get?_insert wrong "description" _)
  have hentry : Change [.object described] [.null, .object described] :=
    .entry [] [.object described] (.notObject fun members => by simp)
  have hchanges := ((Relation.ReflTransGen.single hwrong).tail hdescribed).tail hentry
  have hfits : Json.Fits Value.maxLevels (.array [.object named]) := by
    simp [Value.maxLevels, Json.Fits, named]
  have hfits' : Json.Fits Value.maxLevels (.array [.null, .object described]) := by
    simp [Value.maxLevels, Json.Fits, described]
  have htext : (Value.array [.object named]).text =
      "[\x7b\"name\":\"deploy\",\"formats\":[\"go\"]\x7d]" := by decide +kernel
  have htext' : (Value.array [.null, .object described]).text =
      "[null,\x7b\"name\":\"deploy\",\"formats\":[\"(\",\"go\"]," ++
        "\"description\":[]\x7d]" := by decide
  have hisolated := faults_isolated hchanges (Json.isDocument_text hfits)
    (Json.isDocument_text hfits')
  rwa [htext, htext'] at hisolated

end Listing

end Switchboard.Alias
