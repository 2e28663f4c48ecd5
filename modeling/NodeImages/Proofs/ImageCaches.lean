import NodeImages.Cluster.ImageCache
import NodeImages.Proofs.Encodings

/-!
# Image caches that are written

What an image cache asks for and what it carries as an outcome are taken for themselves when they are written out. An
empty selector, an empty list of secrets, failures that there are none of and a start time that is missing are left out,
and each of their fields starts with just that; what else is missing is written as null, in fields that may be null.

* `CacheSpec.restores`, `CacheStatus.restores`, and the others of that name: from the parts to the whole;
* `ImageCache.take_toJson_iff`: of an image cache, only the metadata may turn out otherwise;
* `ImageCache.caches_survive`: all of this together.
-/

namespace NodeImages.Cluster

open Json

/-! ## What an image cache asks for -/

/-- A group of images is restored from its JSON. -/
theorem ImageGroup.restores (group : ImageGroup) : schema.Restores toJson group := by
  refine Schema.restores_objOf rfl ⟨.inl rfl, by simp [FieldSchema.needed, FieldSchema.defaulted], fun _ _ => rfl⟩
    ?_ ?_ ?_
  · show ["images", "nodeSelector"].Nodup
    decide
  · simp [FieldSchema.needed, FieldSchema.defaulted, FieldSchema.of, given]
  · intro source form arranges
    have images : (Schema.list Schema.text).Restores strs group.images :=
      Schema.restores_list fun image _ => Schema.restores_text image
    have selector : texts.Restores (fun selector => .ofDictionary (selector.map .str)) group.nodeSelector :=
      Schema.restores_dictionary fun _ value _ => Schema.restores_text value
    refine ⟨_, .cons (images.puts arranges rfl) <| .cons (selector.puts_unless arranges rfl _) .nil, ?_⟩
    -- A group starts with the selector that is left out.
    show (if group.nodeSelector.isEmpty = true then id else _) (ImageGroup.mk group.images .empty) = group
    split
    · rename_i empty
      exact congrArg (ImageGroup.mk group.images) (Dictionary.eq_empty_of_isEmpty empty).symm
    · rfl

/-- So is a specification, of whatever groups. -/
theorem CacheSpec.restores (spec : CacheSpec) : schema.Restores toJson spec := by
  refine Schema.restores_objOf rfl ⟨.inl rfl, by simp [FieldSchema.needed, FieldSchema.defaulted], fun _ _ => rfl⟩
    ?_ ?_ ?_
  · show ["cacheSpec", "imagePullSecrets"].Nodup
    decide
  · simp [FieldSchema.needed, FieldSchema.defaulted, FieldSchema.of, given]
  · intro source form arranges
    have groups : (Schema.list ImageGroup.schema).Restores (fun groups => .arr (groups.map (·.toJson))) spec.groups :=
      Schema.restores_list fun group _ => group.restores
    have secrets : (Schema.list Schema.text).Restores strs spec.pullSecrets :=
      Schema.restores_list fun secret _ => Schema.restores_text secret
    refine ⟨_, .cons (groups.puts arranges rfl) <| .cons (secrets.puts_unless arranges rfl _) .nil, ?_⟩
    show (if spec.pullSecrets.isEmpty = true then id else _) (CacheSpec.mk spec.groups []) = spec
    split
    · rename_i empty
      exact congrArg (CacheSpec.mk spec.groups) (List.isEmpty_iff.1 empty).symm
    · rfl

/-! ## What an image cache carries -/

theorem ActionStatus.restores (status : ActionStatus) : schema.Restores (fun status => .str status.name) status :=
  Schema.restores_choice (by cases status <;> rfl)

/-- No status is read off null. -/
theorem ActionStatus.take_null (source : Source) (status : ActionStatus) : schema.take source .null ≠ .ok status := by
  cases source <;> exact nofun

/-- A failure is restored from its JSON. -/
theorem NodeFailure.restores (failure : NodeFailure) : schema.Restores toJson failure := by
  refine Schema.restores_obj rfl ⟨.inl rfl, by simp [FieldSchema.needed], fun _ _ => rfl⟩ ?_ ?_ ?_
  · show ["node", "reason", "message"].Nodup
    decide
  · simp [FieldSchema.needed, FieldSchema.of]
  · exact fun source form arranges => ⟨_, .cons ((Schema.restores_text failure.node).puts arranges rfl) <|
      .cons ((Schema.restores_text failure.reason).puts arranges rfl) <|
      .cons ((Schema.restores_text failure.message).puts arranges rfl) .nil, rfl⟩

/-- So is a status, with or without failures and times. -/
theorem CacheStatus.restores (status : CacheStatus) : schema.Restores toJson status := by
  refine Schema.restores_objOf rfl ⟨.inl rfl, by simp [FieldSchema.optional, FieldSchema.defaulted], fun _ _ => rfl⟩
    ?_ ?_ ?_
  · show ["status", "reason", "message", "failures", "startTime", "completionTime"].Nodup
    decide
  · simp [FieldSchema.optional, FieldSchema.defaulted, FieldSchema.of]
  · intro source form arranges
    have action := Schema.restores_optional ActionStatus.take_null status.status fun action _ => action.restores
    have failures : (Schema.dictionary (.list NodeFailure.schema)).Restores
        (fun failures => .ofDictionary (failures.map fun fs => .arr (fs.map (·.toJson)))) status.failures :=
      Schema.restores_dictionary fun _ failures _ => Schema.restores_list fun failure _ => failure.restores
    have completion := Schema.restores_strOrNull Schema.text_take_null status.completionTime fun time _ =>
      Schema.restores_text time
    refine ⟨_, .cons (action.puts arranges rfl) <|
      .cons ((Schema.restores_text status.reason).puts arranges rfl) <|
      .cons ((Schema.restores_text status.message).puts arranges rfl) <|
      .cons (failures.puts_unless arranges rfl _) <|
      .cons (Schema.puts_present (fun time _ => Schema.restores_text time) Schema.text_take_null arranges rfl) <|
      .cons (completion.puts arranges rfl) .nil, ?_⟩
    -- A status starts without failures and without a start time.
    obtain ⟨action, reason, message, failures, _ | startTime, completionTime⟩ := status
    all_goals
      simp only [List.foldl_cons, List.foldl_nil]
      split
      · rename_i empty
        rw [Dictionary.eq_empty_of_isEmpty empty]
        rfl
      · rfl

/-! ## Image caches -/

namespace ImageCache

variable {source : Source} {form : Json → Json} {cache cache' : ImageCache} {metadata : ObjectMeta}

/-- An image cache is restored from its JSON, up to the metadata, of which only what is read comes back. -/
theorem take_toJson (arranges : Arranges form)
    (taken : ObjectMeta.schema.take source (form cache.metadata.toJson) = .ok metadata) :
    schema.take source (form cache.toJson) = .ok { cache with metadata } := by
  refine RecordSchema.take_objOf arranges ⟨.inl rfl, by simp [FieldSchema.needed, FieldSchema.optional], fun _ _ => rfl⟩
    ?_ ?_ (.cons (.passed rfl rfl) <| .cons (.passed rfl rfl) <|
      .cons (.field rfl (FieldSchema.take_of.2 ⟨metadata, taken, rfl⟩) fun _ => rfl) <|
      .cons (cache.spec.restores.puts arranges rfl) <|
      .cons (Schema.puts_present (fun status _ => status.restores) nofun arranges rfl) .nil) ?_
  · show ["apiVersion", "kind", "metadata", "spec", "status"].Nodup
    decide
  · simp [FieldSchema.needed, FieldSchema.optional, FieldSchema.of, given]
  · obtain ⟨_, spec, _ | status⟩ := cache <;> rfl

/-- An image cache that is written is taken for one that differs from it in the metadata alone, which are taken for what
    they are taken for by themselves. -/
theorem take_toJson_iff (arranges : Arranges form) :
    schema.take source (form cache.toJson) = .ok cache' ↔
      ObjectMeta.schema.take source (form cache.metadata.toJson) = .ok cache'.metadata ∧
        cache'.spec = cache.spec ∧ cache'.status = cache.status := by
  constructor
  · intro taken
    obtain ⟨set, took⟩ := RecordSchema.exists_take_of_given arranges taken (by simp) "metadata" cache.metadata.toJson
      (by simp [given]) rfl
    obtain ⟨metadata, took, -⟩ := FieldSchema.take_of.1 took
    obtain rfl := Except.ok.inj ((take_toJson arranges took).symm.trans taken)
    exact ⟨took, rfl, rfl⟩
  · rintro ⟨took, spec, status⟩
    rw [take_toJson arranges took, ← spec, ← status]

/-- The metadata are written under a name of their own. -/
theorem get?_toJson {name : String} (apart : name ≠ "metadata") :
    ({ cache with metadata } : ImageCache).toJson.get? name = cache.toJson.get? name := by
  obtain ⟨_, spec, _ | status⟩ := cache <;> simp [toJson, objOf, get?, Dictionary.lookup_cons, apart]

end ImageCache

/-- What an image cache asks for and what it carries are taken for themselves, whether their members stand as they are
    written or in the order of their names. So an image cache, wherever it comes from, is taken for one with the same of
    both, which writes the same of both again; whether it is accepted at all is up to its metadata. -/
theorem caches_survive :
    (∀ (spec : CacheSpec) (source : Source), CacheSpec.schema.take source spec.toJson = .ok spec ∧
      CacheSpec.schema.take source spec.toJson.canonical = .ok spec) ∧
    (∀ (status : CacheStatus) (source : Source), CacheStatus.schema.take source status.toJson = .ok status ∧
      CacheStatus.schema.take source status.toJson.canonical = .ok status) ∧
    ∀ (cache cache' : ImageCache) (source : Source),
      (ImageCache.schema.take source cache.toJson = .ok cache' ↔
        ObjectMeta.schema.take source cache.metadata.toJson = .ok cache'.metadata ∧
          cache'.spec = cache.spec ∧ cache'.status = cache.status) ∧
      (ImageCache.schema.take source cache.toJson.canonical = .ok cache' ↔
        ObjectMeta.schema.take source cache.metadata.toJson.canonical = .ok cache'.metadata ∧
          cache'.spec = cache.spec ∧ cache'.status = cache.status) ∧
      ({ cache with metadata := cache'.metadata } : ImageCache).toJson.get? "spec" = cache.toJson.get? "spec" ∧
      ({ cache with metadata := cache'.metadata } : ImageCache).toJson.get? "status" = cache.toJson.get? "status" := by
  refine ⟨fun spec source => ⟨?_, ?_⟩, fun status source => ⟨?_, ?_⟩, fun cache cache' source => ⟨?_, ?_, ?_, ?_⟩⟩
  · exact spec.restores source id arranges_id
  · exact spec.restores source canonical arranges_canonical
  · exact status.restores source id arranges_id
  · exact status.restores source canonical arranges_canonical
  · exact ImageCache.take_toJson_iff arranges_id
  · exact ImageCache.take_toJson_iff arranges_canonical
  · exact ImageCache.get?_toJson (by decide)
  · exact ImageCache.get?_toJson (by decide)

/-- A group for all nodes, and a status in which nothing is said. -/
example :
    let cache : ImageCache := { spec := { groups := [⟨["busybox"], .empty⟩] }, status := some {} }
    (ImageCache.schema.ofJson cache.toJson).map (fun read => (read.spec, read.status)) =
      .ok (cache.spec, cache.status) := by decide +kernel

end NodeImages.Cluster
