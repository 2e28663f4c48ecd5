import NodeImages.Config.Basic
import NodeImages.Proofs.Settings

/-!
# Configurations that are accepted

However its fields are given, as numbers, in words or by references to the environment, a configuration that is accepted
is within bounds (`Config.Sound`), and one within bounds is taken for itself when it is written out, as long as there is
no dollar in its texts (`Config.restores`). A member that is no field is refused, also in the part about retries.

* `Config.sound_of_take`, `QueueConfig.sound_of_take`: what every field keeps is kept by the whole;
* `Config.restores`, `QueueConfig.restores`: what is written of every field is taken for it;
* `Config.configurations_survive`: so a configuration that has been accepted is accepted again, under any environment.
-/

namespace NodeImages

open Json

variable {env : Environment} {source : Source} {value : Json}

/-! ## Retries -/

namespace QueueConfig

variable {config : QueueConfig}

/-- The names of the fields. -/
def names : List String := ["base_delay_ms", "max_delay_ms", "max_retries"]

/-- The delays and the retries are within their ranges. -/
structure Sound (config : QueueConfig) : Prop where
  baseDelayMs : IntegerKind.u64.Holds config.baseDelayMs
  maxDelayMs : IntegerKind.u64.Holds config.maxDelayMs
  maxRetries : IntegerKind.u32.Holds config.maxRetries

theorem sound_default : Sound {} where
  baseDelayMs := ⟨by decide, by decide, nofun⟩
  maxDelayMs := ⟨by decide, by decide, nofun⟩
  maxRetries := ⟨by decide, by decide, nofun⟩

/-- What is accepted keeps within the bounds of the settings of a queue. -/
theorem sound_of_take (accepted : (schema env).take source value = .ok config) : config.Sound := by
  refine RecordSchema.take_keeps ?_ (fun _ _ => rfl) sound_default accepted
  simp only [List.forall_mem_cons, List.not_mem_nil, false_implies, implies_true, and_true]
  refine ⟨?_, ?_, ?_⟩
  · exact FieldSchema.keeps_of fun source value given accepted config sound =>
      { sound with baseDelayMs := Setting.natural_holds rfl (by decide) accepted }
  · exact FieldSchema.keeps_of fun source value given accepted config sound =>
      { sound with maxDelayMs := Setting.natural_holds rfl (by decide) accepted }
  · exact FieldSchema.keeps_of fun source value given accepted config sound =>
      { sound with maxRetries := Setting.natural_holds rfl (by decide) accepted }

/-- Sound settings of a queue are restored from their JSON. -/
theorem restores (sound : config.Sound) : (schema env).Restores toJson config := by
  refine Schema.restores_obj rfl ⟨.inr rfl, by simp [FieldSchema.defaulted], fun _ _ => rfl⟩ ?_ ?_ ?_
  · show names.Nodup
    decide
  · simp [FieldSchema.defaulted, FieldSchema.of]
  · exact fun source form arranges => ⟨_, .cons ((Setting.restores_natural sound.baseDelayMs).puts arranges rfl) <|
      .cons ((Setting.restores_natural sound.maxDelayMs).puts arranges rfl) <|
      .cons ((Setting.restores_natural sound.maxRetries).puts arranges rfl) .nil, rfl⟩

/-- No member is accepted whose name is unknown. -/
theorem memberNames_subset_names (accepted : (schema env).take source value = .ok config) :
    value.memberNames ⊆ names :=
  RecordSchema.memberNames_subset rfl accepted

end QueueConfig

/-! ## Policies -/

/-- A policy is restored from its name. -/
theorem PullPolicy.restores (policy : PullPolicy) : schema.Restores (fun policy => .str policy.name) policy :=
  Schema.restores_choice (by cases policy <;> rfl)

/-! ## Configurations -/

namespace Config

variable {config : Config}

/-- The names of the fields. -/
def names : List String :=
  ["namespace", "image_pull_deadline_s", "status_poll_interval_ms", "image_pull_policy", "cri_client_image",
    "busybox_image", "service_account_name", "work_queue"]

/-- What is given for the retries, where a configuration is given: the members of that name, or the last item. -/
def queueParts : Json → List Json
  | .obj members => (members.filter (·.1 = "work_queue")).map Prod.snd
  | .arr items => items[7]?.toList
  | _ => []

/-- The numbers are within their ranges, and the service account is not empty. -/
structure Sound (config : Config) : Prop where
  deadlineS : config.deadlineS ≤ Duration.maxCount
  pollMs : IntegerKind.nonZeroU64.Holds config.pollMs
  serviceAccount : config.serviceAccount ≠ some ""
  workQueue : config.workQueue.Sound

/-- There is no dollar in any text. -/
structure Plain (config : Config) : Prop where
  space : '$' ∉ config.space.toList
  criClientImage : '$' ∉ config.criClientImage.toList
  busyboxImage : '$' ∉ config.busyboxImage.toList
  serviceAccount : ∀ text ∈ config.serviceAccount, '$' ∉ text.toList

theorem sound_default : Sound {} where
  deadlineS := by decide
  pollMs := ⟨by decide, by decide, by decide⟩
  serviceAccount := nofun
  workQueue := QueueConfig.sound_default

/-- What is accepted keeps within the bounds of all settings. -/
theorem sound_of_take (accepted : (schema env).take source value = .ok config) : config.Sound := by
  refine RecordSchema.take_keeps ?_ (fun _ _ => rfl) sound_default accepted
  simp only [List.forall_mem_cons, List.not_mem_nil, false_implies, implies_true, and_true]
  -- Nothing is said of the namespace, the policy and the two helper images.
  refine ⟨?_, ?_, ?_, ?_, ?_, ?_, ?_, ?_⟩
  · exact FieldSchema.keeps_of fun _ _ _ _ _ sound => { sound with }
  · exact FieldSchema.keeps_of fun source value given accepted config sound =>
      { sound with deadlineS := Setting.seconds_le accepted }
  · exact FieldSchema.keeps_of fun source value given accepted config sound =>
      { sound with pollMs := Setting.natural_holds rfl (by decide) accepted }
  · exact FieldSchema.keeps_of fun _ _ _ _ _ sound => { sound with }
  · exact FieldSchema.keeps_of fun _ _ _ _ _ sound => { sound with }
  · exact FieldSchema.keeps_of fun _ _ _ _ _ sound => { sound with }
  · exact FieldSchema.keeps_of fun source value given accepted config sound =>
      { sound with serviceAccount := Setting.optionalText_ne accepted }
  · exact FieldSchema.keeps_of fun source value given accepted config sound =>
      { sound with workQueue := QueueConfig.sound_of_take accepted }

/-- A sound configuration is restored from its JSON, unless a text of it would be expanded. -/
theorem restores (sound : config.Sound) (plain : config.Plain) : (schema env).Restores toJson config := by
  refine Schema.restores_obj rfl ⟨.inr rfl, by simp [FieldSchema.defaulted], fun _ _ => rfl⟩ ?_ ?_ ?_
  · show names.Nodup
    decide
  · simp [FieldSchema.defaulted, FieldSchema.of]
  · exact fun source form arranges => ⟨_, .cons ((Setting.restores_text plain.space).puts arranges rfl) <|
      .cons ((Setting.restores_seconds sound.deadlineS).puts arranges rfl) <|
      .cons ((Setting.restores_natural sound.pollMs).puts arranges rfl) <|
      .cons (config.policy.restores.puts arranges rfl) <|
      .cons ((Setting.restores_text plain.criClientImage).puts arranges rfl) <|
      .cons ((Setting.restores_text plain.busyboxImage).puts arranges rfl) <|
      .cons ((Setting.restores_optionalText sound.serviceAccount plain.serviceAccount).puts arranges rfl) <|
      .cons ((QueueConfig.restores sound.workQueue).puts arranges rfl) .nil, rfl⟩

/-- No member is accepted whose name is unknown. -/
theorem memberNames_subset_names (accepted : (schema env).take source value = .ok config) :
    value.memberNames ⊆ names :=
  RecordSchema.memberNames_subset rfl accepted

/-- What is given for the retries has no other members than those that are fields. -/
theorem memberNames_subset_of_mem_queueParts (accepted : (schema env).take source value = .ok config) {part : Json}
    (listed : part ∈ queueParts value) : part.memberNames ⊆ QueueConfig.names := by
  obtain ⟨queue, accepted⟩ : ∃ queue, (QueueConfig.schema env).take source part = .ok queue := by
    cases value with
    | obj members =>
      obtain ⟨⟨name, part⟩, chosen, rfl⟩ := List.mem_map.1 listed
      obtain ⟨listed, named⟩ := List.mem_filter.1 chosen
      obtain rfl : name = "work_queue" := of_decide_eq_true named
      obtain ⟨set, taken⟩ := RecordSchema.exists_take_of_mem accepted listed rfl
      obtain ⟨queue, accepted, -⟩ := FieldSchema.take_of.1 taken
      exact ⟨queue, accepted⟩
    | arr items =>
      obtain ⟨set, taken⟩ := RecordSchema.exists_take_of_item accepted (Option.mem_toList.1 listed) rfl
      obtain ⟨queue, accepted, -⟩ := FieldSchema.take_of.1 taken
      exact ⟨queue, accepted⟩
    | _ => cases listed
  exact QueueConfig.memberNames_subset_names accepted

/-- A configuration that has been accepted waits between two looks and has no empty service account. Written out it is
    accepted again, as what it is and under any environment, if there is no dollar in it; and no member of what it has
    been made of has been anything but a field. -/
theorem configurations_survive (accepted : (schema env).take source value = .ok config) :
    (config.Plain → ∀ env' source', (schema env').take source' config.toJson = .ok config ∧
      (schema env').take source' config.toJson.canonical = .ok config) ∧
    1 ≤ config.pollMs ∧ config.serviceAccount ≠ some "" ∧
    value.memberNames ⊆ names ∧ ∀ part ∈ queueParts value, part.memberNames ⊆ QueueConfig.names := by
  have sound := sound_of_take accepted
  have polls : (config.pollMs : Int) ≠ 0 := sound.pollMs.2.2 rfl
  refine ⟨fun plain env' source' => ?_, by omega, sound.serviceAccount, memberNames_subset_names accepted, fun part =>
    memberNames_subset_of_mem_queueParts accepted⟩
  exact ⟨restores sound plain source' id arranges_id, restores sound plain source' canonical arranges_canonical⟩

/-- A poll interval out of the environment, a span of time in words, and a service account of which nothing is left. -/
theorem configurations_survive_references :
    let env : Environment := ⟨[("SPACE", "images"), ("POLL", "250")]⟩
    let value : Json := .obj [("namespace", .str "${SPACE}"), ("image_pull_deadline_s", .str "5m 30s"),
      ("status_poll_interval_ms", .str "$POLL"), ("service_account_name", .str "${ACCOUNT:-}"),
      ("work_queue", .obj [("max_retries", .int 3)])]
    let config : Config := { space := "images", deadlineS := 330, pollMs := 250, workQueue := { maxRetries := 3 } }
    (schema env).take .relaxed value = .ok config ∧ (schema .empty).ofJson config.toJson = .ok config := by
  intro env value config
  have accepted : (schema env).take .relaxed value = .ok config := by decide +kernel
  refine ⟨accepted, ((configurations_survive accepted).1 ?_ .empty .held).1⟩
  exact ⟨by decide, by decide, by decide, nofun⟩

end Config

end NodeImages
