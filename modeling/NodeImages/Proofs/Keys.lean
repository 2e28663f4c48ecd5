import NodeImages.Proofs.Items
import NodeImages.Proofs.Pulls
import NodeImages.Proofs.Retries

/-!
# Keys of work

The key of work on an image is made of the namespace and the name of the image cache, the kind of work, the image, and
the node. The first three end at a slash each and hold none, and the node comes after the last `@`; so the parts can be
told from the key, although an image may hold slashes and `@` of its own. The key of a flush has one slash, and so is
never taken for that of work on an image.

* `ImageCache.Qualified`: an image cache of which the namespace and the name can be told from its key;
* `Item.Plain`, `Item.SameWork`: items that have such a cache, and the unit of work that an item stands for;
* `image_work_recognised`: which keys are those of work on images for an image cache;
* `key_eq_iff`: items have one key if they stand for the same work, and not otherwise;
* `work_told_apart`: so what a queue keeps of one unit of work is left alone by what happens to another.
-/

namespace NodeImages

/-! ## Texts of two parts -/

namespace Text

variable {separator : Char} {before before' after after' : List Char}

/-- Where a text is cut at the place at which it was put together, its parts can be told from it. -/
theorem append_cons_inj_of_cut {cut : List Char → Option (List Char × List Char)}
    (h : cut (before ++ separator :: after) = some (before, after))
    (h' : cut (before' ++ separator :: after') = some (before', after')) :
    before ++ separator :: after = before' ++ separator :: after' ↔ before = before' ∧ after = after' := by
  constructor
  · intro heq
    rw [heq, h'] at h
    obtain ⟨rfl, rfl⟩ := Prod.mk.inj (Option.some.inj h)
    exact ⟨rfl, rfl⟩
  · rintro ⟨rfl, rfl⟩
    rfl

theorem append_cons_inj (h : separator ∉ before) (h' : separator ∉ before') :
    before ++ separator :: after = before' ++ separator :: after' ↔ before = before' ∧ after = after' :=
  append_cons_inj_of_cut (cut_append after h) (cut_append after' h')

theorem append_cons_inj_last (h : separator ∉ after) (h' : separator ∉ after') :
    before ++ separator :: after = before' ++ separator :: after' ↔ before = before' ∧ after = after' :=
  append_cons_inj_of_cut (cutLast_append before h) (cutLast_append before' h')

end Text

/-! ## Image caches -/

namespace Cluster.ImageCache

/-- An image cache has a namespace, and neither the namespace nor the name holds a slash. -/
structure Qualified (cache : ImageCache) : Prop where
  space : ∃ space, cache.space? = some space ∧ space ≠ "" ∧ '/' ∉ space.toList
  name : '/' ∉ cache.name.toList

/-- Two image caches have one namespace and one name. -/
structure Same (cache other : ImageCache) : Prop where
  space : cache.space? = other.space?
  name : cache.name = other.name

variable {cache other : ImageCache}

theorem Same.key_eq (same : cache.Same other) : cache.key = other.key := by
  rw [key, key, same.space, same.name]

namespace Qualified

/-- The key of an image cache is its namespace and its name, with a slash between them. -/
theorem toList_key (qualified : cache.Qualified) :
    ∃ space, cache.space? = some space ∧ '/' ∉ space.toList ∧
      cache.key.toList = space.toList ++ '/' :: cache.name.toList := by
  obtain ⟨space, hspace, nonempty, slashless⟩ := qualified.space
  refine ⟨space, hspace, slashless, ?_⟩
  have filled : ¬ space.isEmpty = true := by simpa using nonempty
  rw [key, hspace, keyOf, if_neg filled]
  simp

/-- The namespace and the name can be told from the key. -/
theorem splitKey_key (qualified : cache.Qualified) : splitKey cache.key = (cache.space?, cache.name) := by
  obtain ⟨space, hspace, slashless, hkey⟩ := qualified.toList_key
  rw [splitKey, hkey, Text.cut_append _ slashless, hspace]
  simp

theorem key_inj (qualified : cache.Qualified) (qualified' : other.Qualified) :
    cache.key = other.key ↔ cache.Same other := by
  refine ⟨fun heq => ?_, Same.key_eq⟩
  have split := qualified.splitKey_key
  rw [heq, qualified'.splitKey_key] at split
  obtain ⟨space, name⟩ := Prod.mk.inj split
  exact ⟨space.symm, name.symm⟩

/-- So they can from a text that starts with the key and a slash. -/
theorem key_append_inj (qualified : cache.Qualified) (qualified' : other.Qualified) {rest rest' : List Char} :
    cache.key.toList ++ '/' :: rest = other.key.toList ++ '/' :: rest' ↔ cache.Same other ∧ rest = rest' := by
  obtain ⟨space, hspace, slashless, hkey⟩ := qualified.toList_key
  obtain ⟨space', hspace', slashless', hkey'⟩ := qualified'.toList_key
  rw [hkey, hkey', List.append_assoc, List.append_assoc, List.cons_append, List.cons_append,
    Text.append_cons_inj slashless slashless', Text.append_cons_inj qualified.name qualified'.name, ← and_assoc]
  refine and_congr_left fun _ => ⟨fun ⟨space, name⟩ => ⟨?_, String.toList_injective name⟩, fun same => ⟨?_, ?_⟩⟩
  · rw [hspace, hspace', String.toList_injective space]
  · rw [Option.some.inj (hspace.symm.trans (same.space.trans hspace'))]
  · rw [same.name]

/-- There is one slash in the key. -/
theorem count_slash_key (qualified : cache.Qualified) : cache.key.toList.count '/' = 1 := by
  obtain ⟨space, -, slashless, hkey⟩ := qualified.toList_key
  rw [hkey, List.count_append, List.count_cons_self, List.count_eq_zero_of_not_mem slashless,
    List.count_eq_zero_of_not_mem qualified.name]

end Qualified

end Cluster.ImageCache

namespace Work

open Cluster

/-! ## Items -/

theorem Kind.slash_not_mem_name (kind : Kind) : '/' ∉ kind.name.toList := by
  cases kind <;> decide

theorem Kind.name_injective : Function.Injective Kind.name := by
  intro kind other h
  cases kind <;> cases other <;> first | rfl | exact absurd h (by decide)

namespace Item

/-- The image cache that an item belongs to. -/
def cache : Item → ImageCache
  | image request => request.cache
  | flush cache => cache

/-- An item has a key of which the parts can be told: its image cache has a namespace, and its node has no `@` in its
    name. The image may be any text. -/
structure Plain (item : Item) : Prop where
  cache : item.cache.Qualified
  node : ∀ request, item = .image request → '@' ∉ request.nodeName.toList

/-- Two items stand for one unit of work: the same work on one image at one node for one image cache, or a flush of one
    image cache. -/
def SameWork : Item → Item → Prop
  | image request, image other =>
    request.cache.Same other.cache ∧ request.kind = other.kind ∧ request.image = other.image ∧
      request.nodeName = other.nodeName
  | flush cache, flush other => cache.Same other
  | _, _ => False

variable {item other : Item} {request : Request} {cache : ImageCache}

theorem toList_key_image (request : Request) :
    (Item.image request).key.toList = request.cache.key.toList ++ '/' :: (request.kind.name.toList ++
      '/' :: (request.image.toList ++ '@' :: request.nodeName.toList)) := by
  rw [key, imageKey, Request.cacheKey]
  simp

theorem toList_key_flush (cache : ImageCache) :
    (Item.flush cache).key.toList = "flush:".toList ++ cache.key.toList := by
  rw [key, flushKey, String.toList_append]

theorem isImageKey_iff {key cacheKey : String} :
    isImageKey key cacheKey = true ↔ ∃ rest, key.toList = cacheKey.toList ++ '/' :: rest := by
  rw [isImageKey, List.isPrefixOf_iff_prefix]
  refine exists_congr fun rest => ?_
  rw [List.append_assoc, List.singleton_append, eq_comm]

/-- In the key of a flush there is one slash only. -/
theorem count_slash_flush (qualified : cache.Qualified) : (Item.flush cache).key.toList.count '/' = 1 := by
  rw [toList_key_flush, List.count_append, qualified.count_slash_key]
  rfl

/-- A text that starts with the key of an image cache and a slash has another slash before that. -/
theorem ne_key_flush (qualified : cache.Qualified) {cache' : ImageCache} (qualified' : cache'.Qualified)
    (rest : List Char) : cache'.key.toList ++ '/' :: rest ≠ (Item.flush cache).key.toList := by
  intro heq
  have count := congrArg (List.count '/') heq
  rw [count_slash_flush qualified, List.count_append, List.count_cons_self, qualified'.count_slash_key] at count
  omega

end Item

/-- The keys of work on images for an image cache are recognised, whatever its name and the image are, and so they are
    if the request has another image cache of the same key. Where image caches have namespaces, and no slash is part of
    a namespace or a name, the key of an item is recognised only if the item is work on an image for that very image
    cache: neither that of another one nor a flush is mistaken for it. -/
theorem image_work_recognised :
    (∀ (cache : ImageCache) (request : Request), request.cacheKey = cache.key →
      Item.isImageKey (Item.image request).key cache.key = true) ∧
    ∀ (cache : ImageCache) (item : Item), cache.Qualified → item.cache.Qualified →
      (Item.isImageKey item.key cache.key = true ↔
        ∃ request, item = .image request ∧ request.cache.Same cache) := by
  have recognised (cache : ImageCache) (request : Request) (h : request.cacheKey = cache.key) :
      Item.isImageKey (Item.image request).key cache.key = true := h ▸ Item.isImageKey_key request
  refine ⟨recognised, fun cache item qualified qualified' => ?_⟩
  constructor
  · intro h
    obtain ⟨rest, heq⟩ := Item.isImageKey_iff.1 h
    cases item with
    | image request =>
      rw [Item.toList_key_image] at heq
      exact ⟨request, rfl, ((ImageCache.Qualified.key_append_inj qualified' qualified).1 heq).1⟩
    | flush cache' =>
      -- That would take a second slash.
      exact absurd heq.symm (Item.ne_key_flush qualified' qualified rest)
  · rintro ⟨request, rfl, same⟩
    exact recognised cache request same.key_eq

/-- A cache whose name is the start of another one's, and an image that holds what looks like a key. -/
theorem image_work_recognised_registry :
    let cache := ImageCache.named "ns/web"
    let request : Request :=
      { image := "ns/web/create/x@sha256:1/2", node := .named "a", runtimeVersion := "", kind := .create,
        cache := .named "ns/web2" }
    Item.isImageKey (Item.image { request with cache }).key cache.key = true ∧
      Item.isImageKey (Item.image request).key cache.key = false ∧
      Item.isImageKey (Item.flush cache).key cache.key = false := by
  intro cache request
  have qualified : cache.Qualified := ⟨⟨"ns", rfl, by decide, by decide⟩, by decide⟩
  have qualified' : request.cache.Qualified := ⟨⟨"ns", rfl, by decide, by decide⟩, by decide⟩
  obtain ⟨recognised, only⟩ := image_work_recognised
  refine ⟨recognised cache { request with cache } rfl, ?_, ?_⟩
  · refine Bool.eq_false_iff.2 fun h => ?_
    obtain ⟨other, hitem, same⟩ := (only cache (.image request) qualified qualified').1 h
    rw [← Item.image.inj hitem] at same
    exact absurd same.name (by decide)
  · refine Bool.eq_false_iff.2 fun h => ?_
    obtain ⟨_, hitem, -⟩ := (only cache (.flush cache) qualified qualified).1 h
    exact Item.noConfusion hitem

namespace Item

variable {item other : Item}

/-- Items of which the parts of the key can be told have one key if they stand for the same work, and not
    otherwise. -/
theorem key_eq_iff (plain : item.Plain) (plain' : other.Plain) : item.key = other.key ↔ item.SameWork other := by
  rw [← String.toList_inj]
  cases item with
  | image request =>
    have qualified : request.cache.Qualified := plain.cache
    have node := plain.node request rfl
    cases other with
    | image request' =>
      have qualified' : request'.cache.Qualified := plain'.cache
      have node' := plain'.node request' rfl
      -- What stands before the image is told from the start of the key, and the node from its end.
      rw [toList_key_image, toList_key_image, ImageCache.Qualified.key_append_inj qualified qualified',
        Text.append_cons_inj request.kind.slash_not_mem_name request'.kind.slash_not_mem_name,
        Text.append_cons_inj_last node node', String.toList_inj, String.toList_inj, String.toList_inj,
        Kind.name_injective.eq_iff]
      rfl
    | flush cache =>
      rw [toList_key_image]
      exact iff_of_false (ne_key_flush plain'.cache qualified _) id
  | flush cache =>
    cases other with
    | image request =>
      rw [toList_key_image]
      exact iff_of_false (ne_key_flush plain.cache plain'.cache _).symm id
    | flush cache' =>
      rw [toList_key_flush, toList_key_flush, List.append_cancel_left_eq, String.toList_inj]
      exact ImageCache.Qualified.key_inj plain.cache plain'.cache

end Item

end Work

/-! ## What a queue keeps of a key -/

namespace Queue.Timed

variable {α : Type} [Keyed α] {timed : Timed α} {move : Move α} {key : String}

/-- The item that something happens to in a move. -/
def item? (timed : Timed α) : Move α → Option α
  | .add item | .addAfter item _ | .addRateLimited item | .requeue item | .done item | .forget item => some item
  | .fire number => (timed.queue.timers.find? (·.number == number)).map Timer.item
  | .take => timed.handout? .take
  | .close | .tick _ => none

/-- What a queue keeps of a key is left alone: how often it failed, how many items of it are with a timer, and
    whether one is being worked on. -/
structure KeepsKey (queue queue' : Queue α) (key : String) : Prop where
  failures : queue'.failures.count key = queue.failures.count key := by rfl
  delayed : queue'.delayed.count key = queue.delayed.count key := by rfl
  processing : key ∈ queue'.processing ↔ key ∈ queue.processing := by rfl

omit [Keyed α] in
theorem KeepsKey.trans {a b c : Queue α} (h : KeepsKey a b key) (h' : KeepsKey b c key) : KeepsKey a c key :=
  ⟨h'.failures.trans h.failures, h'.delayed.trans h.delayed, h'.processing.trans h.processing⟩

omit [Keyed α] in
theorem keepsKey_accept (queue : Queue α) (item : α) : KeepsKey queue (queue.accept item) key := by
  rw [accept]
  split <;> exact {}

theorem keepsKey_addAfter (queue : Queue α) (now : Nat) {item : α} (delay : Nat) (other : key ≠ Keyed.key item) :
    KeepsKey queue (queue.addAfter now item delay) key := by
  rw [Queue.addAfter]
  split
  · exact keepsKey_accept _ _
  · refine ⟨rfl, ?_, Iff.rfl⟩
    dsimp only
    rw [Counts.count_increment, if_neg other, Nat.add_zero]

theorem keepsKey_forget (queue : Queue α) {item : α} (other : key ≠ Keyed.key item) :
    KeepsKey queue (queue.forget item) key := by
  refine ⟨?_, rfl, Iff.rfl⟩
  rw [Queue.forget, Counts.count_drop, if_neg other]

theorem keepsKey_addRateLimited (queue : Queue α) (now : Nat) {item : α} (other : key ≠ Keyed.key item) :
    KeepsKey queue (queue.addRateLimited now item) key := by
  rw [addRateLimited]
  have counted (n : Nat) : KeepsKey queue { queue with failures := queue.failures.put (Keyed.key item) n } key := by
    refine ⟨?_, rfl, Iff.rfl⟩
    rw [Counts.count_put, if_neg other]
  exact (counted _).trans (keepsKey_addAfter _ _ _ other)

/-- In a move, what a queue keeps of a key is left alone unless something happens to an item of the key. -/
theorem keepsKey_act (other : ∀ item, timed.item? move = some item → key ≠ Keyed.key item) :
    KeepsKey timed.queue (timed.act move).queue key := by
  cases move with
  | add item => exact keepsKey_accept _ _
  | addAfter item => exact keepsKey_addAfter _ _ _ (other item rfl)
  | addRateLimited item => exact keepsKey_addRateLimited _ _ (other item rfl)
  | requeue item =>
    rw [act, Queue.requeue]
    split
    · exact keepsKey_addRateLimited _ _ (other item rfl)
    · exact keepsKey_forget _ (other item rfl)
  | forget item => exact keepsKey_forget _ (other item rfl)
  | done item =>
    refine ⟨rfl, rfl, ?_⟩
    simp [act, Queue.done, other item rfl]
  | take =>
    -- Only the key of the item that is handed out is marked.
    rw [act]
    cases hitems : timed.queue.items with
    | nil =>
      rw [take_of_nil hitems]
      exact {}
    | cons item rest =>
      have apart : key ≠ Keyed.key item := other item (by rw [item?, handout?, take_of_cons hitems])
      rw [take_of_cons hitems]
      refine ⟨rfl, rfl, ?_⟩
      dsimp only
      split
      · rfl
      · rw [List.mem_cons, or_iff_right apart]
  | fire number =>
    rw [act, fire]
    split
    · exact {}
    · rename_i timer found
      have apart : key ≠ Keyed.key timer.item := other timer.item (by rw [item?, found, Option.map_some])
      have counted : KeepsKey timed.queue { timed.queue with
          timers := timed.queue.timers.filter (·.number != number)
          delayed := timed.queue.delayed.decrement (Keyed.key timer.item) } key := by
        refine ⟨rfl, ?_, Iff.rfl⟩
        dsimp only
        rw [Counts.count_decrement, if_neg apart, Nat.sub_zero]
      exact counted.trans (keepsKey_accept _ _)
  | close | tick => exact {}

end Queue.Timed

namespace Work

open Cluster Queue

/-- Where image caches have namespaces, no slash is part of a namespace or a name, and no `@` of the name of a node, a
    key belongs to one unit of work: items have one key if they are the same work on one image at one node for one image
    cache, or flushes of one image cache, and not otherwise, whatever the images are. The namespace and the name of an
    image cache can be told from its key. And so what happens in a queue to an item leaves alone what the queue keeps of
    other work: its failures, its delays, and whether it is being worked on. -/
theorem work_told_apart :
    (∀ item other : Item, item.Plain → other.Plain → (item.key = other.key ↔ item.SameWork other)) ∧
    (∀ cache : ImageCache, cache.Qualified → ImageCache.splitKey cache.key = (cache.space?, cache.name)) ∧
    ∀ (timed : Timed Item) (move : Queue.Move Item) (other : Item), other.Plain →
      (∀ item, timed.item? move = some item → item.Plain ∧ ¬ item.SameWork other) →
      (timed.act move).queue.requeues other = timed.queue.requeues other ∧
      (timed.act move).queue.delayed.count other.key = timed.queue.delayed.count other.key ∧
      (timed.act move).queue.isProcessing other = timed.queue.isProcessing other := by
  refine ⟨fun _ _ => Item.key_eq_iff, fun _ => ImageCache.Qualified.splitKey_key, fun timed move other plain h => ?_⟩
  have keeps : Timed.KeepsKey timed.queue (timed.act move).queue other.key := by
    refine Timed.keepsKey_act fun item hitem heq => ?_
    obtain ⟨plain', apart⟩ := h item hitem
    exact apart ((Item.key_eq_iff plain' plain).1 heq.symm)
  refine ⟨keeps.failures, keeps.delayed, ?_⟩
  rw [isProcessing, isProcessing, Bool.eq_iff_iff, List.contains_iff_mem, List.contains_iff_mem]
  exact keeps.processing

/-- Work on an image with a digest, and on the same image without it. -/
theorem work_told_apart_digest :
    let request : Request :=
      { image := "x@sha256:1/2", node := .named "a", runtimeVersion := "", kind := .create, cache := .named "ns/web" }
    let item := Item.image request
    let other := Item.image { request with image := "x" }
    item.key ≠ other.key ∧ ImageCache.splitKey request.cache.key = (some "ns", "web") ∧
      ((({} : Timed Item).act (.addRateLimited item)).queue.requeues item = 1 ∧
        (({} : Timed Item).act (.addRateLimited item)).queue.requeues other = 0) := by
  intro request item other
  have qualified : request.cache.Qualified := ⟨⟨"ns", rfl, by decide, by decide⟩, by decide⟩
  have node : '@' ∉ request.nodeName.toList := by decide
  have plain (image : String) : (Item.image { request with image }).Plain :=
    ⟨qualified, fun _ h => Item.image.inj h ▸ node⟩
  have apart : ¬ item.SameWork other := fun h => absurd h.2.2.1 (by decide)
  obtain ⟨keys, split, queues⟩ := work_told_apart
  refine ⟨mt (keys item other (plain _) (plain _)).1 apart, split request.cache qualified, by decide, ?_⟩
  refine (queues {} (.addRateLimited item) other (plain _) fun failed h => ?_).1
  rw [← Option.some.inj h]
  exact ⟨plain _, apart⟩

end Work

end NodeImages
