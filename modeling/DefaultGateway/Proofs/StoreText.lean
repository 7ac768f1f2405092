import DefaultGateway.Proofs.AddressText
import DefaultGateway.Proofs.Files
import DefaultGateway.Proofs.InstantText
import DefaultGateway.Proofs.JsonText
import DefaultGateway.Proofs.KeyedSet
import DefaultGateway.Store.File

/-!
# A store survives its file

What is written of a store is read as the same store, as text and from the file that has been
saved.
-/

namespace DefaultGateway

/-! ## White space -/

namespace Text

theorem mem_dropWhile {test : Char → Bool} {c : Char} {l : List Char} (refused : test c = false)
    (member : c ∈ l) : c ∈ l.dropWhile test := by
  induction l with
  | nil => cases member
  | cons d rest inductionHypothesis =>
      by_cases dropped : test d = true
      · rw [List.dropWhile_cons, if_pos dropped]
        rcases List.mem_cons.1 member with rfl | later
        · rw [refused] at dropped
          cases dropped
        · exact inductionHypothesis later
      · rw [List.dropWhile_cons, if_neg dropped]
        exact member

/-- Only white space is trimmed. -/
theorem mem_trimChars {c : Char} {l : List Char} (solid : isBlank c = false) (member : c ∈ l) :
    c ∈ trimChars l := by
  rw [trimChars, List.mem_reverse]
  exact mem_dropWhile solid (List.mem_reverse.2 (mem_dropWhile solid member))

end Text

open Document

/-! ## Values -/

theorem Family.ofDocument?_toJson (family : Family) : ofDocument? family.toJson = some family := by
  cases family <;> decide

theorem Protocol.ofDocument?_toJson (protocol : Protocol) :
    ofDocument? protocol.toJson = some protocol := protocol.ofTag?_tag

theorem Address.ofDocument?_toJson (a : Address) : ofDocument? a.toJson = some a := a.ofText?_text

namespace Json

theorem text?_ofText (text : String) : text? (ofText text) = some text := rfl

theorem uint64?_ofNat (n : UInt64) : uint64? (ofNat n.toNat) = some n := by
  have natural : natural? (ofNat n.toNat) = some n.toNat := rfl
  have small : n.toNat < UInt64.size := n.toNat_lt_size
  rw [uint64?, below?, natural, Option.filter_some, if_pos (by simpa using small)]
  simp

theorem list?_map {α : Type} {write : α → Json} {read : Json → Option α} {l : List α}
    (inverse : ∀ a ∈ l, read (write a) = some a) : list? read (.list (l.map write)) = some l :=
  Text.mapM_map_eq_some inverse

/-- A value that may be missing is read back if what is written of it is never null. -/
theorem orNone_map {α : Type} {write : α → Json} {read : Json → Option α}
    (present : ∀ a, optional? (write a) = some (some (write a)))
    (inverse : ∀ a, read (write a) = some a) (value : Option α) :
    orNone read (value.map write) = some value := by
  cases value with
  | none => rfl
  | some a => simp [orNone, maybe, present a, inverse a]

/-- The entries of a record are its fields. -/
theorem record?_record (shape : Shape) (fields : List (String × Json)) :
    record? shape (record fields) =
      if shape.closed && !fields.all fun field => shape.fields.any (·.isCalled field.1) then none
      else shape.fields.mapM (given? fields) := by
  have entries :
      (fields.map fun field => (ofText field.1, field.2)).mapM
        (fun entry => (text? entry.1).map (·, entry.2)) = some fields :=
    Text.mapM_map_eq_some fun _ _ => rfl
  have seen : fields? (record fields) =
      some (fields.map fun field => (ofText field.1, field.2)) := by
    simp [fields?, record, ofText]
  rw [record?, seen]
  exact congrArg (Option.bind · _) entries

theorem haveExact_map {fields : List (String × Json)}
    (exact : ∀ field ∈ fields, field.2.isExact = true) :
    haveExact (fields.map fun (name, value) => (some name, value)) = true := by
  induction fields with
  | nil => rfl
  | cons field fields inductionHypothesis =>
      have first := exact field List.mem_cons_self
      have later := inductionHypothesis fun other member =>
        exact other (List.mem_cons_of_mem field member)
      simp only [List.map_cons, haveExact, first, later, Option.isSome_some, Bool.and_self]

theorem isExact_record {fields : List (String × Json)}
    (exact : ∀ field ∈ fields, field.2.isExact = true) : (record fields).isExact = true := by
  rw [record, isExact]
  exact haveExact_map exact

theorem isExact_list_map {α : Type} {write : α → Json} (exact : ∀ a, (write a).isExact = true)
    (l : List α) : (Json.list (l.map write)).isExact = true := by
  rw [isExact]
  induction l with
  | nil => rfl
  | cons a l inductionHypothesis =>
      rw [List.map_cons, areExact, exact a, inductionHypothesis, Bool.and_self]

theorem isExact_of_mem_optionalField {α : Type} {name : String} {write : α → Json}
    {value : Option α} (exact : ∀ a, (write a).isExact = true) {field : String × Json}
    (member : field ∈ optionalField name write value) : field.2.isExact = true := by
  cases value with
  | none => cases member
  | some a =>
      rw [List.mem_singleton.1 member]
      exact exact a

end Json

/-! ## Records -/

namespace StoredGateway

theorem record?_toJson (g : StoredGateway) :
    record? shape g.toJson =
      some [some g.family.toJson, some (.ofText g.link), some g.protocol.toJson,
        some g.address.toJson, g.source.map Address.toJson, some (.ofNat g.version.toNat),
        some (.ofText g.registeredAt.text)] := by
  rw [toJson, Json.record?_record]
  cases g.source <;> simp [shape, given?, Field.isCalled, Json.optionalField]

theorem ofDocument?_toJson (g : StoredGateway) : ofDocument? g.toJson = some g := by
  have source : orNone Address.ofDocument? (g.source.map Address.toJson) = some g.source :=
    Json.orNone_map (fun _ => rfl) Address.ofDocument?_toJson g.source
  simp [ofDocument?, record?_toJson, required, source, Family.ofDocument?_toJson,
    Protocol.ofDocument?_toJson, Address.ofDocument?_toJson, Json.text?_ofText,
    Json.uint64?_ofNat, Instant.ofText?_text]

theorem isExact_toJson (g : StoredGateway) : g.toJson.isExact = true := by
  refine Json.isExact_record fun field member => ?_
  rcases List.mem_append.1 member with front | version
  · rcases List.mem_append.1 front with named | source
    · simp only [List.mem_cons, List.not_mem_nil, or_false] at named
      rcases named with rfl | rfl | rfl | rfl <;> rfl
    · exact Json.isExact_of_mem_optionalField (fun _ => rfl) source
  · simp only [List.mem_cons, List.not_mem_nil, or_false] at version
    rcases version with rfl | rfl <;> rfl

end StoredGateway

namespace Selector

theorem record?_toJson (s : Selector) :
    record? shape s.toJson =
      some [s.family.map Family.toJson, s.link.map .ofText, s.protocol.map Protocol.toJson] := by
  rw [toJson, Json.record?_record]
  cases s.family <;> cases s.link <;> cases s.protocol <;>
    simp [shape, given?, Field.isCalled, Json.optionalField]

theorem ofDocument?_toJson (s : Selector) : ofDocument? s.toJson = some s := by
  have family : orNone Family.ofDocument? (s.family.map Family.toJson) = some s.family :=
    Json.orNone_map (fun _ => rfl) Family.ofDocument?_toJson s.family
  have link : orNone text? (s.link.map Json.ofText) = some s.link :=
    Json.orNone_map (fun _ => rfl) Json.text?_ofText s.link
  have protocol : orNone Protocol.ofDocument? (s.protocol.map Protocol.toJson) = some s.protocol :=
    Json.orNone_map (fun _ => rfl) Protocol.ofDocument?_toJson s.protocol
  simp [ofDocument?, record?_toJson, family, link, protocol]

theorem isExact_toJson (s : Selector) : s.toJson.isExact = true := by
  refine Json.isExact_record fun field member => ?_
  rcases List.mem_append.1 member with front | protocol
  · rcases List.mem_append.1 front with family | link
    · exact Json.isExact_of_mem_optionalField (fun _ => rfl) family
    · exact Json.isExact_of_mem_optionalField (fun _ => rfl) link
  · exact Json.isExact_of_mem_optionalField (fun _ => rfl) protocol

end Selector

/-! ## The store -/

namespace KeyedSet

theorem ofList_toList {β : Type} [Ord β] [Std.TransOrd β] [Std.LawfulEqOrd β] (s : SortedSet β) :
    ofList s.toList = s := ext fun _ => mem_ofList_sorted

end KeyedSet

namespace Store

theorem record?_toJson (s : Store) :
    record? shape s.toJson =
      some [some (.list (s.gateways.map StoredGateway.toJson)),
        some (.list (s.disabled.toList.map Selector.toJson))] := by
  rw [toJson, Json.record?_record]
  simp [shape, given?, Field.isCalled]

theorem ofDocument?_toJson (s : Store) : ofDocument? s.toJson = some s := by
  have gateways :
      orElse [] (list? StoredGateway.ofDocument?)
        (some (Json.list (s.gateways.map StoredGateway.toJson))) = some s.gateways :=
    Json.list?_map fun g _ => g.ofDocument?_toJson
  have disabled :
      orElse [] (list? Selector.ofDocument?)
        (some (Json.list (s.disabled.toList.map Selector.toJson))) = some s.disabled.toList :=
    Json.list?_map fun selector _ => selector.ofDocument?_toJson
  simp [ofDocument?, record?_toJson, gateways, disabled, KeyedSet.ofList_toList]

theorem isExact_toJson (s : Store) : s.toJson.isExact = true := by
  refine Json.isExact_record fun field member => ?_
  have gateways := Json.isExact_list_map StoredGateway.isExact_toJson s.gateways
  have disabled := Json.isExact_list_map Selector.isExact_toJson s.disabled.toList
  rcases List.mem_cons.1 member with rfl | member
  · exact gateways
  · rw [List.mem_singleton.1 member]
    exact disabled

/-- What is written of a store begins with a bracket, and so is not blank. -/
theorem isEmpty_trim_text (s : Store) : (Text.trim s.text).isEmpty = false := by
  have written : '\x7b' ∈ s.text.toList := by
    rw [text, Json.pretty, String.toList_ofList, toJson, Json.record, Json.writeValue,
      Json.enclose_eq _ _ _ _ (by simp [Json.writeFields])]
    exact List.mem_cons_self
  have kept : '\x7b' ∈ (Text.trim s.text).toList := by
    rw [Text.trim, String.toList_ofList]
    exact Text.mem_trimChars (by decide) written
  cases empty : (Text.trim s.text).isEmpty with
  | false => rfl
  | true =>
      rw [String.isEmpty_iff.1 empty] at kept
      cases kept

theorem ofText?_text (s : Store) : ofText? s.text = some s := by
  rw [ofText?, if_neg (by simp [isEmpty_trim_text]), text, Json.parse?_pretty s.isExact_toJson,
    Option.bind_some, ofDocument?_toJson]

/-- A store can be saved exactly where the draft and the file both have a place. -/
theorem exists_save_iff {path : String} {s : Store} {h : Host} :
    (∃ g, (save path s).runFrom h = (.ok (), g)) ↔
      h.Offers (path ++ ".tmp") ∧ h.Offers path := by
  constructor
  · rintro ⟨g, saved⟩
    obtain ⟨_, t, written, renamed⟩ := Step.ok_of_runFrom_bind saved
    have offered := (Host.exists_rename_iff (Host.read_write written)).1 ⟨g, renamed⟩
    exact ⟨Host.exists_write_iff.1 ⟨t, written⟩,
      ((Host.sameDirectories_write written).offers_iff path).2 offered⟩
  · rintro ⟨draft, file⟩
    obtain ⟨t, written⟩ := Host.exists_write_iff.2 draft
    have offered := ((Host.sameDirectories_write written).offers_iff path).1 file
    obtain ⟨g, renamed⟩ := (Host.exists_rename_iff (Host.read_write written)).2 offered
    exact ⟨g, (Step.runFrom_bind_of_ok written).trans renamed⟩

theorem load_of_save {path : String} {s : Store} {h g : Host}
    (saved : (save path s).runFrom h = (.ok (), g)) :
    (load path).runFrom g = (.ok s, g) := by
  obtain ⟨_, t, written, renamed⟩ := Step.ok_of_runFrom_bind saved
  have held : (Host.read path).runFrom g = (.ok s.text, g) :=
    Host.read_rename (Host.read_write written) renamed
  have attempted : (Host.read path).attempt.runFrom g = (.ok (.ok s.text), g) := by
    rw [Step.runFrom_attempt, held]
  rw [load, Step.runFrom_bind_of_ok attempted]
  simp only [ofText?_text]
  rfl

/-- A store is read back from its text. It is saved wherever there is a place for the file and for
its draft, and loaded from wherever it has been saved. -/
theorem survives_saving (s : Store) :
    ofText? s.text = some s ∧
      ∀ path h,
        ((∃ g, (save path s).runFrom h = (.ok (), g)) ↔
          h.Offers (path ++ ".tmp") ∧ h.Offers path) ∧
        ∀ g, (save path s).runFrom h = (.ok (), g) → (load path).runFrom g = (.ok s, g) :=
  ⟨ofText?_text s, fun _ _ => ⟨exists_save_iff, fun _ saved => load_of_save saved⟩⟩

/-- Two gateways of one key, the later one first, and two disabled selectors. -/
def crowded : Store where
  gateways := [
    ⟨.inet6, "wlan \"0\"", .ra, .v6 0xfe800000000000000000000000000001#128,
      some (.v6 0xffff0a000001#128), 0xffffffffffffffff, ⟨-44, 2, 29, 23, 59, 60, 120, rfl, rfl⟩⟩,
    ⟨.inet6, "wlan \"0\"", .ra, .v4 0x0a000001#32, none, 1, default⟩]
  disabled := .ofList [
    {}, { family := some .inet, protocol := some (.other "wg-0" rfl (by decide)) }]

/-- A directory with an older file in it. -/
def shelf : Host where
  entries := [(["", "run"], .directory), (["", "run", "state.json"], .file "")]
  pid := 1

theorem survives_saving_crowded :
    ((save "/run/./state.json" crowded).runFrom shelf).1 = .ok () ∧
      ((load "/run/./state.json").runFrom
        ((save "/run/./state.json" crowded).runFrom shelf).2).1 = .ok crowded := by
  have saved : ((save "/run/./state.json" crowded).runFrom shelf).1 = .ok () := by decide +kernel
  refine ⟨saved, ?_⟩
  rw [((survives_saving crowded).2 _ _).2 _ (Step.runFrom_eq_of_ok saved)]

end Store

end DefaultGateway
