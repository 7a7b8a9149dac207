/-
Documents: a configuration and a described provider are read back from what is
written of them.

A value of a fixed shape is an object whose members are found by their names,
so neither their order counts nor how many are there (`slots?_record`). What a
slot gives is then a matter of one field: a member that is written is read
back, and one that is left out is one that the default has too
(`Config.Abridges.orDefault?_lookup`).
-/
import Mathlib.Data.List.Nodup
import Mathlib.Data.List.Perm.Subperm
import SpellSessions.Config
import SpellSessions.Proofs.Json.Value
import SpellSessions.Provider.Descriptor

namespace SpellSessions

namespace Json

variable {α : Type} {unknown : Unknown} {fields : List String} {name : String}
  {v : Json} {members written : List (String × Json)}
  {slots : List (Option Json)}

-- ================================================================== slots

/-- Members fill the slots of declared fields if none of the fields occurs
twice and, where unknown members are refused, every member is declared. -/
theorem slotsOfMembers?_eq_some_iff :
    slotsOfMembers? unknown fields members = some slots
      ↔ (∀ field ∈ fields, (members.map Prod.fst).count field ≤ 1)
        ∧ (unknown = .refused → ∀ m ∈ members, m.1 ∈ fields)
        ∧ fields.map (members.lookup ·) = slots := by
  unfold slotsOfMembers?
  split
  · next hrepeated =>
      obtain ⟨field, hfield, htwice⟩ := List.any_eq_true.mp hrepeated
      refine ⟨nofun, fun ⟨honce, _⟩ => ?_⟩
      have hle := honce field hfield
      have hlt := of_decide_eq_true htwice
      omega
  · next hrepeated =>
      have honce : ∀ field ∈ fields,
          (members.map Prod.fst).count field ≤ 1 := by
        simpa using hrepeated
      cases unknown with
      | ignored => simpa using fun _ => honce
      | refused =>
          split
          · next hstrange =>
              obtain ⟨m, hmem, hnot⟩ := List.any_eq_true.mp hstrange
              refine ⟨nofun, fun ⟨_, hdeclared, _⟩ => ?_⟩
              simp [hdeclared rfl m hmem] at hnot
          · next hknown =>
              have hdeclared : ∀ m ∈ members, m.1 ∈ fields := by
                simpa using hknown
              rw [Option.some.injEq]
              constructor
              · intro hslots
                exact ⟨honce, fun _ => hdeclared, hslots⟩
              · rintro ⟨-, -, hslots⟩
                exact hslots

/-- What was written of every item is read from the list of it. -/
theorem mapM_map_eq_some {β γ : Type} {read : γ → Option β} {write : β → γ}
    {xs : List β} (h : ∀ x ∈ xs, read (write x) = some x) :
    (xs.map write).mapM read = some xs := by
  induction xs with
  | nil => rfl
  | cons x xs ih =>
      obtain ⟨hx, hxs⟩ := List.forall_mem_cons.mp h
      rw [List.map_cons, List.mapM_cons, hx, ih hxs]
      rfl

/-- Some members of declared names have names of their own. -/
theorem nodup_names (hnames : (members.map Prod.fst).Nodup)
    (hsub : written.Subperm members) : (written.map Prod.fst).Nodup := by
  obtain ⟨l, hperm, hl⟩ := hsub
  exact (hperm.map Prod.fst).nodup_iff.mp (hnames.sublist (hl.map Prod.fst))

/-- The slots of an object that has some of the declared members, in any
order. -/
theorem slots?_record (hnames : (members.map Prod.fst).Nodup)
    (hsub : written.Subperm members) :
    (record written).slots? unknown (members.map Prod.fst)
      = some ((members.map Prod.fst).map (written.lookup ·)) := by
  have hnamed : (written.map fun m => (some m.1, m.2)).mapM
      (fun m : Option String × Json => m.1.map (·, m.2)) = some written :=
    mapM_map_eq_some fun _ _ => rfl
  have hslots : (record written).slots? unknown (members.map Prod.fst)
      = slotsOfMembers? unknown (members.map Prod.fst) written :=
    congrArg (·.bind (slotsOfMembers? unknown (members.map Prod.fst))) hnamed
  rw [hslots, slotsOfMembers?_eq_some_iff]
  refine ⟨?_, ?_, rfl⟩
  · intro field _
    exact List.nodup_iff_count_le_one.mp (nodup_names hnames hsub) field
  · intro _ m hm
    exact List.mem_map_of_mem (hsub.subset hm)

/-- A declared member is found by its name if it is written, and only
then. -/
theorem lookup_cases (hnames : (members.map Prod.fst).Nodup)
    (hsub : written.Subperm members) (hm : (name, v) ∈ members) :
    written.lookup name = some v
      ∨ written.lookup name = none ∧ (name, v) ∉ written := by
  by_cases hwritten : (name, v) ∈ written
  · left
    have hnames := nodup_names hnames hsub
    obtain ⟨front, back, rfl⟩ := List.append_of_mem hwritten
    refine List.lookup_eq_some_iff.mpr ⟨front, back, rfl, ?_⟩
    intro m hfront
    rw [List.map_append, List.nodup_append] at hnames
    have hne := hnames.2.2 m.1 (List.mem_map_of_mem hfront) name (by simp)
    simpa using hne.symm
  · right
    refine ⟨List.lookup_eq_none_iff.mpr ?_, hwritten⟩
    intro m hm'
    rw [bne_iff_ne]
    rintro rfl
    have hsame := List.inj_on_of_nodup_map hnames (hsub.subset hm') hm rfl
    exact hwritten (hsame ▸ hm')

-- ================================================================= fields

theorem list?_ofTexts (texts : List String) :
    list? text? (ofTexts texts) = some texts :=
  mapM_map_eq_some fun _ _ => rfl

theorem nullOr?_ofText? (text : Option String) :
    nullOr? text? (ofText? text) = some text := by
  cases text <;> rfl

theorem spelled_ofTexts (texts : List String) : (ofTexts texts).Spelled := by
  refine .array _ fun v hv => ?_
  obtain ⟨text, -, rfl⟩ := List.mem_map.mp hv
  exact spelled_ofText text

theorem spelled_ofText? (text : Option String) : (ofText? text).Spelled := by
  cases text with
  | none => exact .null
  | some text => exact spelled_ofText text

theorem spelled_record (h : ∀ m ∈ members, m.2.Spelled) :
    (record members).Spelled := by
  refine .object _ fun m hm => ?_
  obtain ⟨⟨name, v⟩, hmem, rfl⟩ := List.mem_map.mp hm
  exact h _ hmem

end Json

-- ========================================================== configurations

theorem LogFormat.ofJson?_toJson (f : LogFormat) :
    ofJson? f.toJson = some f := by
  cases f <;> rfl

namespace Config

variable {c : Config} {written : List (String × Json)}

/-- The settings as named members, in the order in which they are written. -/
def members (c : Config) : List (String × Json) :=
  [("log_filter", .ofText c.logFilter),
    ("log_format", c.logFormat.toJson),
    ("fallback_locales", .ofTexts c.fallbackLocales),
    ("spell_checker_enabled_default", .bool c.enabledDefault)]

theorem toJson_eq_record (c : Config) : c.toJson = .record c.members :=
  rfl

theorem names_members (c : Config) : c.members.map Prod.fst = fieldNames :=
  rfl

theorem nodup_members (c : Config) : (c.members.map Prod.fst).Nodup := by
  rw [names_members]
  decide

theorem spelled_members (c : Config) : ∀ m ∈ c.members, m.2.Spelled := by
  intro m hm
  simp only [members, List.mem_cons, List.not_mem_nil, or_false] at hm
  rcases hm with rfl | rfl | rfl | rfl
  · exact Json.spelled_ofText _
  · exact Json.spelled_ofText _
  · exact Json.spelled_ofTexts _
  · exact .bool _

/-- Members that say what a configuration is: its settings in any order, of
which some that have their defaults may be left out. -/
structure Abridges (written : List (String × Json)) (c : Config) : Prop where
  subperm : written.Subperm c.members
  spared : ∀ m ∈ c.members, m ∈ written ∨ m ∈ default.members

theorem abridges_members (c : Config) : Abridges c.members c :=
  ⟨.refl _, fun _ => .inl⟩

/-- A setting that is read from its member is read from an abridged
configuration. -/
theorem Abridges.orDefault?_lookup {α : Type} (h : Abridges written c)
    (setting : Config → α) (read : Json → Option α) {name : String}
    (hname : name ∈ fieldNames)
    (hread : ∀ (c : Config) (v : Json), (name, v) ∈ c.members →
      read v = some (setting c)) :
    Json.orDefault? (setting default) read (written.lookup name)
      = some (setting c) := by
  rw [← names_members c] at hname
  obtain ⟨⟨_, v⟩, hm, rfl⟩ := List.mem_map.mp hname
  rcases Json.lookup_cases c.nodup_members h.subperm hm with
    hfound | ⟨hnone, hnot⟩
  · rw [hfound]
    exact hread c v hm
  · have hdefault := (h.spared _ hm).resolve_left hnot
    rw [hnone, ← hread c v hm, hread default v hdefault]
    rfl

/-- A configuration is read from its settings, whatever their order, without
those that have their defaults. -/
theorem Abridges.ofJson?_record (h : Abridges written c) :
    ofJson? (.record written) = some c := by
  have hslots : (Json.record written).slots? .refused fieldNames
      = some (fieldNames.map (written.lookup ·)) :=
    Json.slots?_record c.nodup_members h.subperm
  have hfilter : Json.orDefault? default.logFilter Json.text?
      (written.lookup "log_filter") = some c.logFilter :=
    h.orDefault?_lookup logFilter _ (by decide)
      (by simp [members, Json.ofText, Json.text?])
  have hformat : Json.orDefault? default.logFormat LogFormat.ofJson?
      (written.lookup "log_format") = some c.logFormat :=
    h.orDefault?_lookup logFormat _ (by decide)
      (by simp [members, LogFormat.ofJson?_toJson])
  have hlocales : Json.orDefault? default.fallbackLocales
      (Json.list? Json.text?) (written.lookup "fallback_locales")
        = some c.fallbackLocales :=
    h.orDefault?_lookup fallbackLocales _ (by decide)
      (by simp [members, Json.list?_ofTexts])
  have henabled : Json.orDefault? default.enabledDefault Json.bool?
      (written.lookup "spell_checker_enabled_default")
        = some c.enabledDefault :=
    h.orDefault?_lookup enabledDefault _ (by decide)
      (by simp [members, Json.bool?])
  rw [ofJson?, hslots]
  simp only [fieldNames, List.map_cons, List.map_nil, Option.bind_eq_bind,
    Option.bind_some, hfilter, hformat, hlocales, henabled]
  rfl

theorem Abridges.spelled (h : Abridges written c) :
    (Json.record written).Spelled :=
  Json.spelled_record fun m hm => c.spelled_members m (h.subperm.subset hm)

/-- A document that stands for an abridged configuration is read as that
configuration, however it is laid out. -/
theorem Abridges.parse?_of_record (h : Abridges written c)
    {document : String}
    (hdocument : Json.parse? document = some (.record written)) :
    parse? document = some c := by
  rw [parse?, hdocument, Option.bind_some]
  exact h.ofJson?_record

end Config

-- =============================================================== providers

theorem SubtypeDescription.ofJson?_toJson (s : SubtypeDescription) :
    ofJson? s.toJson = some s := by
  have hslots : s.toJson.slots? .ignored ["locale", "extra_value"]
      = some [some (.ofText s.locale), some (.ofText s.extra)] :=
    Json.slots?_record (by simp) (.refl _)
  rw [ofJson?, hslots]
  rfl

theorem SubtypeDescription.spelled_toJson (s : SubtypeDescription) :
    s.toJson.Spelled := by
  apply Json.spelled_record
  simp only [List.forall_mem_cons]
  exact ⟨Json.spelled_ofText _, Json.spelled_ofText _, nofun⟩

namespace Descriptor

/-- A described provider is read from its fields. -/
theorem ofJson?_toJson (d : Descriptor) : ofJson? d.toJson = some d := by
  have hslots : d.toJson.slots? .ignored
        ["id", "package", "permission", "system", "subtypes"]
      = some [some (.ofText d.id), some (.ofText d.package),
          some (.ofText? d.permission), some (.bool d.system),
          some (.array (d.subtypes.map SubtypeDescription.toJson))] :=
    Json.slots?_record (by simp) (.refl _)
  have hsubtypes : Json.list? SubtypeDescription.ofJson?
      (.array (d.subtypes.map SubtypeDescription.toJson)) = some d.subtypes :=
    Json.mapM_map_eq_some fun s _ => s.ofJson?_toJson
  rw [ofJson?, hslots]
  simp only [Option.bind_eq_bind, Option.bind_some, Json.required?,
    Json.orDefault?, Json.nullOr?_ofText?, hsubtypes]
  rfl

theorem spelled_toJson (d : Descriptor) : d.toJson.Spelled := by
  apply Json.spelled_record
  simp only [List.forall_mem_cons]
  refine ⟨Json.spelled_ofText _, Json.spelled_ofText _,
    Json.spelled_ofText? _, .bool _, ?_, nofun⟩
  refine .array _ fun v hv => ?_
  obtain ⟨s, -, rfl⟩ := List.mem_map.mp hv
  exact s.spelled_toJson

end Descriptor

-- ============================================================== read back

/-- A configuration is read back from the text of its settings, in any order
and without any of those that have their defaults, and from every other
document that stands for such an object; a described provider is read back
from its text. -/
theorem documents_read_back :
    (∀ (c : Config) (written : List (String × Json)),
        Config.Abridges written c →
          Config.parse? (Json.record written).compact = some c
            ∧ ∀ document, Json.parse? document = some (.record written) →
                Config.parse? document = some c)
      ∧ (∀ c : Config, Config.parse? c.toJson.compact = some c)
      ∧ ∀ d : Descriptor,
          (Json.parse? d.toJson.compact).bind Descriptor.ofJson? = some d := by
  refine ⟨fun c written h => ⟨?_, ?_⟩, fun c => ?_, fun d => ?_⟩
  · exact h.parse?_of_record h.spelled.parse?_compact
  · intro document hdocument
    exact h.parse?_of_record hdocument
  · have h := c.abridges_members
    rw [c.toJson_eq_record]
    exact h.parse?_of_record h.spelled.parse?_compact
  · rw [d.spelled_toJson.parse?_compact, Option.bind_some]
    exact d.ofJson?_toJson

namespace Sample

/-- A configuration with two settings that have their defaults. -/
def terse : Config :=
  ⟨"a\"b\n", .compact, [], true⟩

/-- The other two, the later one first. -/
def terseSettings : List (String × Json) :=
  [("log_format", .ofText "compact"), ("log_filter", .ofText "a\"b\n")]

def terseText : String :=
  "\x7b\"log_format\":\"compact\",\"log_filter\":\"a\\\"b\\n\"\x7d"

/-- A provider that asks its binder for no permission. -/
def unguarded : Descriptor :=
  ⟨"p", "pkg", none, false, []⟩

def unguardedText : String :=
  "\x7b\"id\":\"p\",\"package\":\"pkg\",\"permission\":null,"
    ++ "\"system\":false,\"subtypes\":[]\x7d"

end Sample

/-- Two settings in the wrong order and two left out; a provider without a
permission. -/
theorem terse_settings_read_back :
    Config.Abridges Sample.terseSettings Sample.terse
      ∧ Config.parse? Sample.terseText = some Sample.terse
      ∧ (Json.parse? Sample.unguardedText).bind Descriptor.ofJson?
        = some Sample.unguarded := by
  have habridges : Config.Abridges Sample.terseSettings Sample.terse := by
    constructor
    · refine ⟨[("log_filter", .ofText "a\"b\n"),
        ("log_format", .ofText "compact")], .swap _ _ _, ?_⟩
      exact List.sublist_append_left _ [_, _]
    · simp [Config.members, Config.default, Sample.terse,
        Sample.terseSettings, LogFormat.toJson, LogFormat.text]
  obtain ⟨hsettings, -, hproviders⟩ := documents_read_back
  obtain ⟨hread, -⟩ := hsettings _ _ habridges
  have hprovider := hproviders Sample.unguarded
  have htext : (Json.record Sample.terseSettings).compact
      = Sample.terseText := by
    cbv
  have htext' : Sample.unguarded.toJson.compact = Sample.unguardedText := by
    cbv
  rw [htext] at hread
  rw [htext'] at hprovider
  exact ⟨habridges, hread, hprovider⟩

end SpellSessions
