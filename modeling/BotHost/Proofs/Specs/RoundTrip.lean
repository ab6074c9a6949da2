/-
# Specs survive their wire form

A spec is stored as JSON and read again when the account is connected the next time.  Encoding
leaves out empty descriptions, empty lists and absent templates, and decoding fills in the same for
them.  One thing is lost: a passive command may have the template null, and a template that is
written as null is read as absent.  That makes a difference, since null lets no event through and an
absent template lets all of them through.

`CommandSpec.withoutNulls` is what is read, so the spec survives exactly if no template of it is
null, `CommandSpec.reads_back_iff`.
-/

import BotHost.Command.Spec
import BotHost.Proofs.Json.Documents

namespace BotHost

/-! ### Lists, maps and values -/

namespace Decoder

variable {α β : Type}

/-- A list is read as what its items are read as. -/
theorem list_ofJson {item : Decoder β} {encode : α → Json} {read : α → β} {values : List α}
    (h : ∀ value ∈ values, ofJson item (encode value) = some (read value)) :
    ofJson (list item) (.array (values.map encode)) = some (values.map read) := by
  have hitems : (Document.ofItems (values.map encode)).mapM item = some (values.map read) := by
    induction values with
    | nil => rfl
    | cons value rest ih =>
        obtain ⟨hvalue, hrest⟩ := List.forall_mem_cons.mp h
        rw [ofJson] at hvalue
        rw [List.map_cons, Document.ofItems, List.mapM_cons, hvalue, ih hrest]
        rfl
  exact hitems

/-- A map is read back if its values are. -/
theorem map_ofJson {item : Decoder α} {encode : α → Json}
    (h : ∀ value, ofJson item (encode value) = some value) (map : SortedMap String α) :
    ofJson (Decoder.map item) (.object (map.toList.map fun (key, value) => (key, encode value))) =
      some map := by
  have hmembers (entries : List (String × α)) :
      members item (.object (Document.ofMembers
        (entries.map fun (key, value) => (key, encode value)))) = some entries := by
    rw [members]
    induction entries with
    | nil => rfl
    | cons entry rest ih =>
        obtain ⟨key, value⟩ := entry
        have hvalue := h value
        rw [ofJson] at hvalue
        simp only [List.map_cons, Document.ofMembers, List.mapM_cons, hvalue, ih]
        rfl
  have hsame : SortedMap.ofList map.toList = map :=
    SortedMap.ext_toList (SortedMap.toList_ofList map.ascending)
  rw [ofJson, Decoder.map, Document.ofJson, hmembers, Option.map_some, hsame]

end Decoder

namespace Fields

variable {α β : Type} {fields : Fields} {name : String}

/-- A list that is left out when it is empty is read as what its items are read as. -/
theorem orElse_list_of_get? {item : Decoder β} {encode : α → Json} {read : α → β}
    {values : List α}
    (hget : fields.get? name =
      (if values = [] then none else some (Json.array (values.map encode))).map Document.ofJson)
    (h : ∀ value ∈ values, Decoder.ofJson item (encode value) = some (read value)) :
    fields.orElse name (Decoder.list item) [] = some (values.map read) := by
  by_cases hempty : values = []
  · rw [orElse, hget, if_pos hempty, hempty]
    rfl
  · rw [if_neg hempty] at hget
    exact orElse_of_written hget (Decoder.list_ofJson h)

/-- A value that may be absent is read back unless it is null: then it is read as absent. -/
theorem optional_json_of_get? {value : Option Json}
    (hget : fields.get? name = value.map Document.ofJson)
    (h : ∀ found, value = some found → found.Ordered) :
    fields.optional name Decoder.json = some (value.filter fun found => !found.isNull) := by
  cases value with
  | none => rw [optional, orElse, hget]; rfl
  | some found =>
      by_cases hnull : found = .null
      · subst hnull
        rw [optional, orElse, hget]
        rfl
      · have hthere : (some found).filter (fun found => !found.isNull) = some found := by
          cases found <;> first | rfl | exact absurd rfl hnull
        rw [hthere]
        refine optional_of_get? id hget fun value hvalue => ?_
        cases hvalue
        exact ⟨Document.toJson?_ofJson (h _ rfl), hnull⟩

end Fields

/-! ### Active commands -/

namespace Argument

/-- The fields as they are written. -/
def written (argument : Argument) : List (String × Option Json) :=
  [("matches", some (.string argument.pattern)), ("required", some (.bool argument.required)),
    ("description",
      if argument.description = "" then none else some (.string argument.description))]

theorem toJson_eq (argument : Argument) :
    argument.toJson = Json.ofMembers (Json.present argument.written) := by
  by_cases hdescription : argument.description = "" <;>
    simp [toJson, written, descriptionMember, Json.present, hdescription]

/-- An argument is read back. -/
theorem decode_toJson (argument : Argument) :
    Decoder.ofJson decode argument.toJson = some argument := by
  obtain ⟨fields, hfields, hget⟩ := Document.fields?_ofRecord
    ["matches", "required", "description"] argument.written rfl (by decide)
  have hpattern : fields.required "matches" Decoder.text = some argument.pattern := by
    rw [Fields.required, hget _ (some (.string argument.pattern)) (by simp [written])]
    rfl
  have hrequired : fields.orElse "required" Decoder.bool false = some argument.required :=
    Fields.orElse_of_written (hget _ (some (.bool argument.required)) (by simp [written])) rfl
  have hdescription : fields.orElse "description" Decoder.text "" = some argument.description :=
    Fields.orElse_text_of_get? (hget _ _ (by simp [written]))
  rw [Decoder.ofJson, decode, toJson_eq, hfields]
  simp only [Option.bind_eq_bind, Option.bind_some, hpattern, hrequired, hdescription]

end Argument

namespace ActiveCommand

/-- The fields as they are written. -/
def written (command : ActiveCommand) : List (String × Option Json) :=
  [("syntax", some (.string command.template)),
    ("description",
      if command.description = "" then none else some (.string command.description)),
    ("arguments", some (.object (command.arguments.toList.map fun (key, argument) =>
      (key, argument.toJson))))]

theorem toJson_eq (command : ActiveCommand) :
    command.toJson = Json.ofMembers (Json.present command.written) := by
  by_cases hdescription : command.description = "" <;>
    simp [toJson, written, Argument.descriptionMember, Json.present, hdescription]

/-- An active command is read back. -/
theorem decode_toJson (command : ActiveCommand) :
    Decoder.ofJson decode command.toJson = some command := by
  obtain ⟨fields, hfields, hget⟩ := Document.fields?_ofRecord
    ["syntax", "description", "arguments"] command.written rfl (by decide)
  have htemplate : fields.required "syntax" Decoder.text = some command.template := by
    rw [Fields.required, hget _ (some (.string command.template)) (by simp [written])]
    rfl
  have hdescription : fields.orElse "description" Decoder.text "" = some command.description :=
    Fields.orElse_text_of_get? (hget _ _ (by simp [written]))
  have harguments : fields.orElse "arguments" (Decoder.map Argument.decode) .empty =
      some command.arguments :=
    Fields.orElse_of_written (hget _ (some (.object _)) (by simp [written]))
      (Decoder.map_ofJson Argument.decode_toJson command.arguments)
  rw [Decoder.ofJson, decode, toJson_eq, hfields]
  simp only [Option.bind_eq_bind, Option.bind_some, htemplate, hdescription, harguments]

end ActiveCommand

/-! ### Passive commands -/

namespace PassiveCommand

/-- The command without its template if that is null. -/
def withoutNull (command : PassiveCommand) : PassiveCommand :=
  { command with template := command.template.filter fun template => !template.isNull }

/-- The fields as they are written. -/
def written (command : PassiveCommand) : List (String × Option Json) :=
  [("name", some (.string command.name)), ("matches", some (.string command.pattern)),
    ("match_against", some (.string command.field)), ("match_event", command.template)]

theorem toJson_eq (command : PassiveCommand) :
    command.toJson = Json.ofMembers (Json.present command.written) := by
  cases htemplate : command.template <;> simp [toJson, written, Json.present, htemplate]

/-- A passive command is read back, but for a template that is null. -/
theorem decode_toJson {command : PassiveCommand}
    (h : ∀ template, command.template = some template → template.Ordered) :
    Decoder.ofJson decode command.toJson = some command.withoutNull := by
  obtain ⟨fields, hfields, hget⟩ := Document.fields?_ofRecord
    ["name", "matches", "match_against", "match_event"] command.written rfl (by decide)
  have hname : fields.required "name" Decoder.text = some command.name := by
    rw [Fields.required, hget _ (some (.string command.name)) (by simp [written])]
    rfl
  have hpattern : fields.required "matches" Decoder.text = some command.pattern := by
    rw [Fields.required, hget _ (some (.string command.pattern)) (by simp [written])]
    rfl
  have hfield : fields.orElse "match_against" Decoder.text defaultField = some command.field :=
    Fields.orElse_of_written (hget _ (some (.string command.field)) (by simp [written])) rfl
  have htemplate : fields.optional "match_event" Decoder.json =
      some (command.template.filter fun template => !template.isNull) :=
    Fields.optional_json_of_get? (hget _ _ (by simp [written])) h
  rw [Decoder.ofJson, decode, toJson_eq, hfields]
  simp only [Option.bind_eq_bind, Option.bind_some, hname, hpattern, hfield, htemplate]
  rfl

/-- Nothing is lost exactly if the template is not null. -/
theorem withoutNull_beq_iff {command : PassiveCommand} :
    (command.withoutNull == command) = true ↔ command.template ≠ some .null := by
  have hparts : (command.withoutNull == command) = true ↔
      (command.template.filter (fun template => !template.isNull) == command.template) = true := by
    change (command.name == command.name && (command.pattern == command.pattern &&
      (command.field == command.field && _ == command.template))) = true ↔ _
    simp
  rw [hparts]
  cases command.template with
  | none => simp
  | some template =>
      cases template with
      | null => simp [Json.isNull]
      | _ => simp [Json.isNull]

end PassiveCommand

/-! ### Specs -/

namespace CommandSpec

variable {spec : CommandSpec}

/-- The templates of a spec are ordered. -/
def Ordered (spec : CommandSpec) : Prop :=
  ∀ command ∈ spec.passive, ∀ template, command.template = some template → template.Ordered

/-- The spec without the templates that are null. -/
def withoutNulls (spec : CommandSpec) : CommandSpec :=
  { spec with passive := spec.passive.map PassiveCommand.withoutNull }

/-- The fields as they are written. -/
def written (spec : CommandSpec) : List (String × Option Json) :=
  [("commands", if spec.active = [] then none
      else some (.array (spec.active.map ActiveCommand.toJson))),
    ("passive_commands", if spec.passive = [] then none
      else some (.array (spec.passive.map PassiveCommand.toJson)))]

theorem toJson_eq (spec : CommandSpec) :
    spec.toJson = Json.ofMembers (Json.present spec.written) := by
  by_cases hactive : spec.active = [] <;> by_cases hpassive : spec.passive = [] <;>
    simp [toJson, written, listMember, Json.present, hactive, hpassive]

/-- A spec is read back, but for the templates that are null. -/
theorem decode_toJson_eq (h : spec.Ordered) :
    Decoder.ofJson decode spec.toJson = some spec.withoutNulls := by
  obtain ⟨fields, hfields, hget⟩ := Document.fields?_ofRecord
    ["commands", "passive_commands"] spec.written rfl (by decide)
  have hactive : fields.orElse "commands" (Decoder.list ActiveCommand.decode) [] =
      some (spec.active.map id) :=
    Fields.orElse_list_of_get? (hget _ _ (by simp [written])) fun command _ =>
      command.decode_toJson
  have hpassive : fields.orElse "passive_commands" (Decoder.list PassiveCommand.decode) [] =
      some (spec.passive.map PassiveCommand.withoutNull) :=
    Fields.orElse_list_of_get? (hget _ _ (by simp [written])) fun command hcommand =>
      PassiveCommand.decode_toJson (h command hcommand)
  rw [List.map_id] at hactive
  rw [Decoder.ofJson, decode, toJson_eq, hfields]
  simp only [Option.bind_eq_bind, Option.bind_some, hactive, hpassive]
  rfl

/-- Nothing is lost exactly if no template is null. -/
theorem withoutNulls_beq_iff :
    (spec.withoutNulls == spec) = true ↔
      ∀ command ∈ spec.passive, command.template ≠ some .null := by
  have hparts : (spec.withoutNulls == spec) = true ↔
      (spec.passive.map PassiveCommand.withoutNull == spec.passive) = true :=
    Bool.and_eq_true_iff.trans (and_iff_right BEq.rfl)
  rw [hparts]
  generalize spec.passive = commands
  induction commands with
  | nil => simp
  | cons command rest ih =>
      rw [List.map_cons, List.cons_beq_cons, Bool.and_eq_true, List.forall_mem_cons]
      exact and_congr PassiveCommand.withoutNull_beq_iff ih

/-- The wire form of a spec is decoded to the spec without the templates that are null, and so to an
equal spec exactly if there is no such template. -/
theorem reads_back_iff (h : spec.Ordered) :
    ∃ read, Decoder.ofJson decode spec.toJson = some read ∧
      ((read == spec) = true ↔ ∀ command ∈ spec.passive, command.template ≠ some .null) ∧
      read = spec.withoutNulls :=
  ⟨spec.withoutNulls, decode_toJson_eq h, withoutNulls_beq_iff, rfl⟩

/-- A spec with a command of each kind, with and without what may be left out, and one of the two
templates null. -/
def assorted : CommandSpec :=
  { active :=
      [⟨"ping", "", .empty⟩,
        ⟨"roll $dice", "Roll dice", SortedMap.empty.insert "$dice" ⟨"[0-9]+", true, "How many"⟩⟩]
    passive :=
      [⟨"issue", "#([0-9]+)", "body", some (.object [("sender", .string "@user:hs")])⟩,
        ⟨"any", ".", "body", some .null⟩, ⟨"word", "a", "formatted_body", none⟩] }

/-- The null template of the spec is read as absent, which makes the spec another one. -/
theorem reads_back_assorted :
    ∃ read, Decoder.ofJson decode assorted.toJson = some read ∧ (read == assorted) = false ∧
      read.active = assorted.active ∧
      read.passive.map (·.template) =
        [some (.object [("sender", .string "@user:hs")]), none, none] := by
  have hordered : assorted.Ordered := by
    simp only [Ordered, assorted, List.forall_mem_cons]
    refine ⟨?_, ?_, nofun, fun _ hmem => absurd hmem List.not_mem_nil⟩
    · rintro _ ⟨⟩
      exact @Document.ordered_of_toJson? (.object [("sender", .string "@user:hs")]) _ rfl
    · rintro _ ⟨⟩
      exact .null
  obtain ⟨read, hread, hequal, rfl⟩ := reads_back_iff hordered
  refine ⟨_, hread, ?_, rfl, rfl⟩
  rw [Bool.eq_false_iff, Ne, hequal]
  simp [assorted]

end CommandSpec

end BotHost
