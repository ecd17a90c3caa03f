import OneSecond.Kingfisher.ImageDownloader

/-!
# The image cache (`Kingfisher/Sources/ImageCache.swift`)

Images are kept in memory, where they may be evicted at any time, and in files.
Files are only touched by the blocks of one serial queue, so a store is written
some time after it was called for; and an image missing in memory is read by a
block as well, which puts what it found back into memory, a moment later.

In which order calls, evictions and blocks come is open.  If no image of a key is
stored or removed while a read of the key is queued, memory, files and queue
together behave as one dictionary at this key (`result_of_run`).  Without this
condition a read may put an image back which has been replaced or removed.  An
image stored in memory only leaves the file as it was, so once it is evicted a
read may find an older one; `filing` keeps account of that, and of the files
which are deleted.

Keys are computed keys, each with a file of its own.  Files are taken to be
written, read and deleted without errors.  Which files a cleaning deletes is a
separate part.
-/

namespace OneSecond

namespace Kingfisher

open Runs

variable {Image Handler : Type}

structure CacheSerializer (Image : Type) where
  data : Image → Option Data → Option Data
  image : Data → Option Image

inductive CacheType where
  | none
  | memory
  | disk
  deriving DecidableEq, Repr

/-- A call of a completion handler of `retrieveImage`. -/
structure CacheResult (Image Handler : Type) where
  completionHandler : Handler
  key : String
  image : Option Image
  cacheType : CacheType
  deriving DecidableEq

/-- A block of `ioQueue`. -/
inductive IOBlock (Image Handler : Type) where
  | createFile (key : String) (image : Image) (original : Option Data)
  | removeItem (key : String)
  /-- The block of `clearDiskCache`. -/
  | removeAll
  /-- The block of `cleanExpiredDiskCache`. -/
  | removeItems (keys : List String)
  | retrieve (key : String) (completionHandler : Handler)
  /-- The rest of a `retrieve` which found an image. -/
  | putBack (key : String) (completionHandler : Handler) (image : Image)

structure ImageCache (Image Handler : Type) where
  memoryCache : String → Option Image
  /-- The files in `diskCachePath`. -/
  files : String → Option Data
  ioQueue : List (IOBlock Image Handler)

/-- What a block does to the files. -/
def IOBlock.perform (serializer : CacheSerializer Image) (files : String → Option Data) :
    IOBlock Image Handler → String → Option Data
  | .createFile key image original =>
      match serializer.data image original with
      | some data => Function.update files key (some data)
      | none => files
  | .removeItem key => Function.update files key none
  | .removeAll => fun _ => none
  | .removeItems keys => fun key => if key ∈ keys then none else files key
  | .retrieve _ _ => files
  | .putBack _ _ _ => files

/-- The key a block reads. -/
def IOBlock.readKey : IOBlock Image Handler → Option String
  | .retrieve key _ => some key
  | .putBack key _ _ => some key
  | _ => none

namespace ImageCache

def store (cache : ImageCache Image Handler) (image : Image) (original : Option Data) (key : String)
    (toDisk : Bool) : ImageCache Image Handler :=
  let cache := { cache with memoryCache := Function.update cache.memoryCache key (some image) }
  if toDisk then { cache with ioQueue := cache.ioQueue ++ [.createFile key image original] }
  else cache

def removeImage (cache : ImageCache Image Handler) (key : String) (fromMemory fromDisk : Bool) :
    ImageCache Image Handler :=
  let cache :=
    if fromMemory then { cache with memoryCache := Function.update cache.memoryCache key none }
    else cache
  if fromDisk then { cache with ioQueue := cache.ioQueue ++ [.removeItem key] } else cache

/-- A hit in memory completes at once; otherwise the files are looked at later. -/
def retrieveImage (cache : ImageCache Image Handler) (key : String) (completionHandler : Handler) :
    ImageCache Image Handler × Option (CacheResult Image Handler) :=
  match cache.memoryCache key with
  | some image => (cache, some ⟨completionHandler, key, some image, .memory⟩)
  | none =>
      ({ cache with ioQueue := cache.ioQueue ++ [.retrieve key completionHandler] }, none)

def clearMemoryCache (cache : ImageCache Image Handler) : ImageCache Image Handler :=
  { cache with memoryCache := fun _ => none }

def clearDiskCache (cache : ImageCache Image Handler) : ImageCache Image Handler :=
  { cache with ioQueue := cache.ioQueue ++ [.removeAll] }

/-- Which files are deleted is open here. -/
def cleanExpiredDiskCache (cache : ImageCache Image Handler) (keys : List String) :
    ImageCache Image Handler :=
  { cache with ioQueue := cache.ioQueue ++ [.removeItems keys] }

def diskImage (cache : ImageCache Image Handler) (serializer : CacheSerializer Image)
    (key : String) : Option Image :=
  (cache.files key).bind serializer.image

/-- A block runs, taken off the queue.  Calls may come between a read and its putting back. -/
def performBlock (serializer : CacheSerializer Image) (cache : ImageCache Image Handler) :
    IOBlock Image Handler → ImageCache Image Handler × Option (CacheResult Image Handler)
  | .retrieve key completionHandler =>
      match cache.diskImage serializer key with
      | some image =>
          ({ cache with ioQueue := .putBack key completionHandler image :: cache.ioQueue }, none)
      | none => (cache, some ⟨completionHandler, key, none, .none⟩)
  | .putBack key completionHandler image =>
      (cache.store image none key false, some ⟨completionHandler, key, some image, .disk⟩)
  | block => ({ cache with files := block.perform serializer cache.files }, none)

end ImageCache

inductive CacheEvent (Image Handler : Type) where
  | store (image : Image) (original : Option Data) (key : String) (toDisk : Bool)
  | removeImage (key : String) (fromMemory fromDisk : Bool)
  | retrieveImage (key : String) (completionHandler : Handler)
  /-- The memory cache makes room. -/
  | evict (key : String)
  | clearMemoryCache
  | clearDiskCache
  | cleanExpiredDiskCache (keys : List String)
  | performBlock

namespace ImageCache

def handle (serializer : CacheSerializer Image) (cache : ImageCache Image Handler) :
    CacheEvent Image Handler →
      Option (ImageCache Image Handler × Option (CacheResult Image Handler))
  | .store image original key toDisk => some (cache.store image original key toDisk, none)
  | .removeImage key fromMemory fromDisk => some (cache.removeImage key fromMemory fromDisk, none)
  | .retrieveImage key completionHandler => some (cache.retrieveImage key completionHandler)
  | .evict key =>
      some ({ cache with memoryCache := Function.update cache.memoryCache key none }, none)
  | .clearMemoryCache => some (cache.clearMemoryCache, none)
  | .clearDiskCache => some (cache.clearDiskCache, none)
  | .cleanExpiredDiskCache keys => some (cache.cleanExpiredDiskCache keys, none)
  | .performBlock =>
      match cache.ioQueue with
      | block :: blocks => some (performBlock serializer { cache with ioQueue := blocks } block)
      | [] => none

/-- The cache under every order of calls, evictions and blocks. -/
def system (serializer : CacheSerializer Image) :
    System (ImageCache Image Handler) (CacheEvent Image Handler) where
  Step cache event after := ∃ result, cache.handle serializer event = some (after, result)

/-- What an event completes. -/
def completes (serializer : CacheSerializer Image)
    (occurrence : ImageCache Image Handler × CacheEvent Image Handler) :
    Option (CacheResult Image Handler) :=
  (occurrence.1.handle serializer occurrence.2).bind Prod.snd

/-- The cache at launch: the files of earlier launches, and nothing else. -/
def launched (files : String → Option Data) : ImageCache Image Handler :=
  ⟨fun _ => none, files, []⟩

/-- What was stored last, unless it was removed since; at launch, what the files hold. -/
def latest (found : String → Option Image) :
    History (ImageCache Image Handler) (CacheEvent Image Handler) → String → Option Image
  | [] => found
  | (_, .store image _ key _) :: older => Function.update (latest found older) key (some image)
  | (_, .removeImage key true true) :: older => Function.update (latest found older) key none
  | _ :: older => latest found older

/-- What the files hold at launch. -/
def launchImages (serializer : CacheSerializer Image) (files : String → Option Data)
    (key : String) : Option Image :=
  (files key).bind serializer.image

/-- What the file of a key is to the image stored last under the key. -/
inductive Filing where
  | current
  | missing
  /-- The file holds an image stored earlier, or held it while it could be read. -/
  | outdated
  deriving DecidableEq, Repr

/-- The file is deleted. -/
def Filing.deleted : Filing → Filing
  | .outdated => .outdated
  | _ => .missing

/-- An image is stored in memory only. -/
def Filing.passedOver (earlier : Option Image) : Filing → Filing
  | .current => if earlier.isNone then .missing else .outdated
  | filing => filing

/-- The key's file, after what was stored, removed and deleted. -/
def filing (found : String → Option Image) (key : String) :
    History (ImageCache Image Handler) (CacheEvent Image Handler) → Filing
  | [] => .current
  | (_, .store _ _ stored toDisk) :: older =>
      if stored ≠ key then filing found key older
      else if toDisk then .current
      else (filing found key older).passedOver (latest found older key)
  | (_, .removeImage removed fromMemory true) :: older =>
      if removed ≠ key then filing found key older
      else if fromMemory then .current
      else (filing found key older).deleted
  | (_, .clearDiskCache) :: older => (filing found key older).deleted
  | (_, .cleanExpiredDiskCache keys) :: older =>
      if key ∈ keys then (filing found key older).deleted else filing found key older
  | _ :: older => filing found key older

/-- A read of the key is queued, or not yet put back. -/
def Reads (cache : ImageCache Image Handler) (key : String) : Prop :=
  ∃ block ∈ cache.ioQueue, block.readKey = some key

/-- No image of the key is stored or removed while a read of the key is queued. -/
def Calm (key : String) (cache : ImageCache Image Handler) : CacheEvent Image Handler → Prop
  | .store _ _ stored _ => stored = key → ¬ cache.Reads key
  | .removeImage removed true true => removed = key → ¬ cache.Reads key
  | _ => True

instance (cache : ImageCache Image Handler) (key : String) : Decidable (cache.Reads key) :=
  inferInstanceAs (Decidable (∃ block ∈ cache.ioQueue, block.readKey = some key))

instance (key : String) (cache : ImageCache Image Handler) (event : CacheEvent Image Handler) :
    Decidable (Calm key cache event) := by
  unfold Calm
  split <;> infer_instance

/-- What the file of a key reads as after some blocks. -/
def fileImage (serializer : CacheSerializer Image) (blocks : List (IOBlock Image Handler))
    (files : String → Option Data) (key : String) : Option Image :=
  (blocks.foldl (fun files block => block.perform serializer files) files key).bind
    serializer.image

/-- What a read may find, against what was stored last. -/
def Agrees (alike : Image → Image → Prop) : Filing → Option Image → Option Image → Prop
  | .current, held, last => Option.Rel alike held last
  | .missing, held, last => held = none ∨ Option.Rel alike held last
  | .outdated, _, _ => True

section Runs

variable {serializer : CacheSerializer Image} {found : String → Option Image}
  {alike : Image → Image → Prop} {cache after : ImageCache Image Handler}
  {event : CacheEvent Image Handler}
  {history : History (ImageCache Image Handler) (CacheEvent Image Handler)}
  {files : String → Option Data} {key : String} {result : CacheResult Image Handler}

theorem Agrees.deleted {filing : Filing} {held last : Option Image}
    (agrees : Agrees alike filing held last) : Agrees alike filing.deleted held last := by
  cases filing with
  | current => exact .inr agrees
  | missing => exact agrees
  | outdated => trivial

/-- The image stored last agrees with itself. -/
theorem agrees_latest (refl : ∀ image, alike image image) (filing : Filing) (image : Image) :
    Agrees alike filing (some image) (some image) := by
  cases filing with
  | current => exact .some (refl image)
  | missing => exact .inr (.some (refl image))
  | outdated => trivial

theorem fileImage_concat (blocks : List (IOBlock Image Handler)) (block : IOBlock Image Handler) :
    fileImage serializer (blocks ++ [block]) files key =
      (block.perform serializer
        (blocks.foldl (fun files block => block.perform serializer files) files) key).bind
          serializer.image := by
  simp [fileImage]

/-- What is in memory agrees with what was stored last, and so does what the file will hold, at
the end of the queue and wherever a read is queued, and what a read has found. -/
structure Coherent (serializer : CacheSerializer Image) (found : String → Option Image)
    (alike : Image → Image → Prop) (key : String)
    (history : History (ImageCache Image Handler) (CacheEvent Image Handler))
    (cache : ImageCache Image Handler) : Prop where
  memory : ∀ image, cache.memoryCache key = some image →
    Agrees alike (filing found key history) (some image) (latest found history key)
  file : filing found key history = .current →
    Option.Rel alike (fileImage serializer cache.ioQueue cache.files key)
      (latest found history key)
  gone : filing found key history = .missing →
    fileImage serializer cache.ioQueue cache.files key = none
  reads : ∀ before completionHandler rest,
    cache.ioQueue = before ++ .retrieve key completionHandler :: rest →
    Agrees alike (filing found key history) (fileImage serializer before cache.files key)
      (latest found history key)
  puts : ∀ completionHandler image, .putBack key completionHandler image ∈ cache.ioQueue →
    Agrees alike (filing found key history) (some image) (latest found history key)

/-- A read which is called for now will find what agrees. -/
theorem Coherent.last (coherent : Coherent serializer found alike key history cache) :
    Agrees alike (filing found key history) (fileImage serializer cache.ioQueue cache.files key)
      (latest found history key) := by
  cases status : filing found key history with
  | current => exact coherent.file status
  | missing => exact .inl (coherent.gone status)
  | outdated => trivial

/-- No read is queued which could find something older. -/
theorem Coherent.of_unread (unread : ¬ cache.Reads key)
    (memory : ∀ image, cache.memoryCache key = some image →
      Agrees alike (filing found key history) (some image) (latest found history key))
    (file : filing found key history = .current →
      Option.Rel alike (fileImage serializer cache.ioQueue cache.files key)
        (latest found history key))
    (gone : filing found key history = .missing →
      fileImage serializer cache.ioQueue cache.files key = none) :
    Coherent serializer found alike key history cache := by
  refine ⟨memory, file, gone, ?_, ?_⟩
  · intro before completionHandler rest queue
    exact absurd ⟨.retrieve key completionHandler, by simp [queue], rfl⟩ unread
  · intro completionHandler image queued
    exact absurd ⟨_, queued, rfl⟩ unread

theorem not_reads_concat (unread : ¬ cache.Reads key) {memoryCache : String → Option Image}
    {block : IOBlock Image Handler} (noRead : block.readKey = none) :
    ¬ Reads { cache with memoryCache, ioQueue := cache.ioQueue ++ [block] } key := by
  rintro ⟨queued, isQueued, isRead⟩
  rcases List.mem_append.mp isQueued with earlier | isNew
  · exact unread ⟨queued, earlier, isRead⟩
  · rw [List.mem_singleton.mp isNew, noRead] at isRead
    cases isRead

/-- A call which leaves the key's image as it was stored, but may delete its file. -/
theorem Coherent.enqueue (coherent : Coherent serializer found alike key history cache)
    {memoryCache : String → Option Image} (block : IOBlock Image Handler)
    (memory : ∀ image, memoryCache key = some image → cache.memoryCache key = some image)
    (sameLatest : latest found ((cache, event) :: history) key = latest found history key)
    (filed : (∀ files, block.perform serializer files key = files key) ∧
        filing found key ((cache, event) :: history) = filing found key history ∨
      (∀ files, block.perform serializer files key = none) ∧ block.readKey = none ∧
        filing found key ((cache, event) :: history) = (filing found key history).deleted)
    (put : ∀ completionHandler image, block ≠ .putBack key completionHandler image) :
    Coherent serializer found alike key ((cache, event) :: history)
      { cache with memoryCache, ioQueue := cache.ioQueue ++ [block] } := by
  have weaker : ∀ held, Agrees alike (filing found key history) held (latest found history key) →
      Agrees alike (filing found key ((cache, event) :: history)) held
        (latest found ((cache, event) :: history) key) := by
    intro held agrees
    rw [sameLatest]
    rcases filed with ⟨_, same⟩ | ⟨_, _, deleted⟩
    · rw [same]
      exact agrees
    · rw [deleted]
      exact agrees.deleted
  refine ⟨?_, ?_, ?_, ?_, ?_⟩
  · intro image held
    exact weaker _ (coherent.memory image (memory image held))
  · intro current
    rw [sameLatest, fileImage_concat]
    rcases filed with ⟨kept, same⟩ | ⟨_, _, deleted⟩
    · rw [kept]
      exact coherent.file (same.symm.trans current)
    · cases status : filing found key history <;> simp [deleted, status, Filing.deleted] at current
  · intro missing
    rw [fileImage_concat]
    rcases filed with ⟨kept, same⟩ | ⟨deletes, _, _⟩
    · rw [kept]
      exact coherent.gone (same.symm.trans missing)
    · rw [deletes]
      rfl
  · intro before completionHandler rest split
    change cache.ioQueue ++ [block] = _ at split
    rcases List.eq_nil_or_concat rest with rfl | ⟨rest, last, rfl⟩
    · -- the read is the new block
      rcases List.append_inj' split rfl with ⟨rfl, _⟩
      exact weaker _ coherent.last
    · have shorter : cache.ioQueue ++ [block] =
          (before ++ .retrieve key completionHandler :: rest) ++ [last] := by
        rw [split]
        simp
      rcases List.append_inj' shorter rfl with ⟨queue, _⟩
      exact weaker _ (coherent.reads before completionHandler rest queue)
  · intro completionHandler image queued
    rcases List.mem_append.mp queued with earlier | isNew
    · exact weaker _ (coherent.puts completionHandler image earlier)
    · exact absurd (List.mem_singleton.mp isNew).symm (put completionHandler image)

/-- Memory alone changes. -/
theorem Coherent.remember (coherent : Coherent serializer found alike key history cache)
    {memoryCache : String → Option Image}
    (sameLatest : latest found ((cache, event) :: history) key = latest found history key)
    (sameFiling : filing found key ((cache, event) :: history) = filing found key history)
    (memory : ∀ image, memoryCache key = some image → cache.memoryCache key = some image) :
    Coherent serializer found alike key ((cache, event) :: history) { cache with memoryCache } := by
  refine ⟨?_, ?_, ?_, ?_, ?_⟩
  · rw [sameLatest, sameFiling]
    intro image held
    exact coherent.memory image (memory image held)
  · rw [sameLatest, sameFiling]
    exact coherent.file
  · rw [sameFiling]
    exact coherent.gone
  · rw [sameLatest, sameFiling]
    exact coherent.reads
  · rw [sameLatest, sameFiling]
    exact coherent.puts

theorem held_of_forgotten {memoryCache : String → Option Image} (forgotten : String)
    (image : Image) (held : Function.update memoryCache forgotten none key = some image) :
    memoryCache key = some image := by
  by_cases same : key = forgotten
  · simp [same] at held
  · simpa [same] using held

/-- An image is stored under the key, and the file is to follow. -/
theorem Coherent.stored (refl : ∀ image, alike image image) {image : Image}
    {original : Option Data}
    (faithful : ∃ data decoded, serializer.data image original = some data ∧
      serializer.image data = some decoded ∧ alike decoded image)
    (unread : ¬ cache.Reads key) :
    Coherent serializer found alike key ((cache, .store image original key true) :: history)
      (cache.store image original key true) := by
  rcases faithful with ⟨data, decoded, written, reads, isAlike⟩
  have isLatest : latest found ((cache, .store image original key true) :: history) key =
      some image := by
    simp [latest]
  have isCurrent : filing found key ((cache, .store image original key true) :: history) =
      .current := by
    simp [filing]
  apply Coherent.of_unread (not_reads_concat unread rfl)
  · intro held isHeld
    have same : image = held := by simpa using isHeld
    rw [isLatest, ← same]
    exact agrees_latest refl _ image
  · intro _
    change Option.Rel alike (fileImage serializer (cache.ioQueue ++ [_]) cache.files key) _
    rw [isLatest, fileImage_concat]
    simpa [IOBlock.perform, written, reads] using Option.Rel.some isAlike
  · rw [isCurrent]
    intro impossible
    cases impossible

/-- An image is stored under the key in memory only: the file stays behind. -/
theorem Coherent.passedOver (coherent : Coherent serializer found alike key history cache)
    (refl : ∀ image, alike image image) {image : Image} {original : Option Data}
    (unread : ¬ cache.Reads key) :
    Coherent serializer found alike key ((cache, .store image original key false) :: history)
      (cache.store image original key false) := by
  have isLatest : latest found ((cache, .store image original key false) :: history) key =
      some image := by
    simp [latest]
  have isFiling : filing found key ((cache, .store image original key false) :: history) =
      (filing found key history).passedOver (latest found history key) := by
    simp [filing]
  have nothing : fileImage serializer cache.ioQueue cache.files key = none ∨
      (filing found key history).passedOver (latest found history key) = .outdated := by
    cases status : filing found key history with
    | outdated => exact .inr rfl
    | missing => exact .inl (coherent.gone status)
    | current =>
        have agrees := coherent.file status
        cases earlier : latest found history key with
        | some _ => exact .inr rfl
        | none =>
            rw [earlier] at agrees
            cases held : fileImage serializer cache.ioQueue cache.files key with
            | none => exact .inl rfl
            | some _ =>
                rw [held] at agrees
                cases agrees
  apply Coherent.of_unread (by exact unread)
  · intro held isHeld
    have same : image = held := by simpa [store] using isHeld
    rw [isLatest, ← same]
    exact agrees_latest refl _ image
  · rw [isFiling]
    intro impossible
    cases status : filing found key history <;>
      simp [status, Filing.passedOver] at impossible
    split at impossible <;> cases impossible
  · rw [isFiling]
    intro missing
    rcases nothing with nothing | outdated
    · exact nothing
    · rw [outdated] at missing
      cases missing

/-- The key's image is removed from memory and from the files. -/
theorem Coherent.removed (unread : ¬ cache.Reads key) :
    Coherent serializer found alike key ((cache, .removeImage key true true) :: history)
      (cache.removeImage key true true) := by
  have isLatest : latest found ((cache, .removeImage key true true) :: history) key = none := by
    simp [latest]
  apply Coherent.of_unread (not_reads_concat unread rfl)
  · intro held isHeld
    simp at isHeld
  · intro _
    change Option.Rel alike (fileImage serializer (cache.ioQueue ++ [_]) cache.files key) _
    rw [isLatest, fileImage_concat]
    simp [IOBlock.perform]
  · intro _
    change fileImage serializer (cache.ioQueue ++ [_]) cache.files key = none
    rw [fileImage_concat]
    simp [IOBlock.perform]

/-- The first block leaves the queue. -/
theorem Coherent.dequeue (coherent : Coherent serializer found alike key history cache)
    {memoryCache : String → Option Image} {block : IOBlock Image Handler}
    {blocks : List (IOBlock Image Handler)} (queue : cache.ioQueue = block :: blocks)
    (memory : ∀ image, memoryCache key = some image →
      Agrees alike (filing found key history) (some image) (latest found history key)) :
    Coherent serializer found alike key ((cache, .performBlock) :: history)
      ⟨memoryCache, block.perform serializer cache.files, blocks⟩ := by
  have ahead : ∀ before, fileImage serializer before (block.perform serializer cache.files) key =
      fileImage serializer (block :: before) cache.files key := fun _ => rfl
  refine ⟨memory, ?_, ?_, ?_, ?_⟩
  · intro current
    rw [ahead, ← queue]
    exact coherent.file current
  · intro missing
    rw [ahead, ← queue]
    exact coherent.gone missing
  · intro before completionHandler rest split
    rw [ahead]
    apply coherent.reads (block :: before) completionHandler rest
    rw [queue, List.cons_append]
    exact congrArg _ split
  · intro completionHandler image queued
    apply coherent.puts completionHandler image
    rw [queue]
    exact List.mem_cons_of_mem block queued

/-- A read goes on with what it has found. -/
theorem Coherent.reading (coherent : Coherent serializer found alike key history cache)
    {readKey : String} {image : Image} {completionHandler : Handler}
    (agrees : readKey = key →
      Agrees alike (filing found key history) (some image) (latest found history key)) :
    Coherent serializer found alike key history
      { cache with ioQueue := .putBack readKey completionHandler image :: cache.ioQueue } := by
  refine ⟨coherent.memory, coherent.file, coherent.gone, ?_, ?_⟩
  · intro before otherHandler rest split
    cases before with
    | nil => cases split
    | cons first before =>
        have ⟨isFirst, shorter⟩ := List.cons.inj split
        subst isFirst
        exact coherent.reads before otherHandler rest shorter
  · intro otherHandler otherImage queued
    rcases List.mem_cons.mp queued with isFirst | later
    · cases isFirst
      exact agrees rfl
    · exact coherent.puts otherHandler otherImage later

/-- A block of the queue runs. -/
theorem Coherent.performBlock (coherent : Coherent serializer found alike key history cache)
    {completed : Option (CacheResult Image Handler)}
    (step : cache.handle serializer .performBlock = some (after, completed)) :
    Coherent serializer found alike key ((cache, .performBlock) :: history) after := by
  cases queue : cache.ioQueue with
  | nil => simp [handle, queue] at step
  | cons block blocks =>
      simp only [handle, queue, Option.some.injEq] at step
      cases block with
      | retrieve readKey completionHandler =>
          simp only [ImageCache.performBlock, diskImage] at step
          split at step
          next image isFound =>
            cases step
            apply (coherent.dequeue queue coherent.memory).reading
            rintro rfl
            have agrees := coherent.reads [] completionHandler blocks queue
            have isRead : fileImage serializer ([] : List (IOBlock Image Handler)) cache.files
                readKey = some image := isFound
            rw [isRead] at agrees
            exact agrees
          next =>
            cases step
            exact coherent.dequeue queue coherent.memory
      | putBack readKey completionHandler image =>
          cases step
          apply coherent.dequeue queue
          intro held isHeld
          by_cases same : key = readKey
          · subst same
            have same : image = held := by simpa using isHeld
            subst same
            exact coherent.puts completionHandler image (by simp [queue])
          · rw [Function.update_of_ne same] at isHeld
            exact coherent.memory held isHeld
      | createFile =>
          cases step
          exact coherent.dequeue queue coherent.memory
      | removeItem =>
          cases step
          exact coherent.dequeue queue coherent.memory
      | removeAll =>
          cases step
          exact coherent.dequeue queue coherent.memory
      | removeItems =>
          cases step
          exact coherent.dequeue queue coherent.memory

/-- Every step keeps a key coherent, where the step is calm for the key and the serializer reads
back what it writes for the key. -/
theorem Coherent.next (refl : ∀ image, alike image image)
    (coherent : Coherent serializer found alike key history cache) (calm : Calm key cache event)
    (faithful : ∀ image original, event = .store image original key true →
      ∃ data decoded, serializer.data image original = some data ∧
        serializer.image data = some decoded ∧ alike decoded image)
    (step : (system serializer).Step cache event after) :
    Coherent serializer found alike key ((cache, event) :: history) after := by
  obtain ⟨completed, step⟩ := step
  cases event with
  | store image original stored toDisk =>
      cases step
      by_cases same : stored = key
      · subst same
        cases toDisk with
        | true => exact .stored refl (faithful image original rfl) (calm rfl)
        | false => exact coherent.passedOver refl (calm rfl)
      · have differs : key ≠ stored := Ne.symm same
        have memory : ∀ held, Function.update cache.memoryCache stored (some image) key =
            some held → cache.memoryCache key = some held := by
          intro held isHeld
          rwa [Function.update_of_ne differs] at isHeld
        cases toDisk with
        | true =>
            apply coherent.enqueue _ memory
            · simp [latest, differs]
            · refine .inl ⟨?_, by simp [filing, same]⟩
              intro files
              simp only [IOBlock.perform]
              cases serializer.data image original with
              | none => rfl
              | some data => exact Function.update_of_ne differs ..
            · simp
        | false =>
            apply coherent.remember
            · simp [latest, differs]
            · simp [filing, same]
            · exact memory
  | removeImage removed fromMemory fromDisk =>
      cases step
      cases fromDisk with
      | false =>
          cases fromMemory with
          | true => exact coherent.remember rfl rfl (held_of_forgotten removed)
          | false => exact coherent.remember rfl rfl fun _ => id
      | true =>
          by_cases same : removed = key
          · subst same
            cases fromMemory with
            | true => exact .removed (calm rfl)
            | false =>
                apply coherent.enqueue _ (fun _ => id) rfl
                · exact .inr ⟨by simp [IOBlock.perform], rfl, by simp [filing]⟩
                · simp
          · have differs : key ≠ removed := Ne.symm same
            have untouched : ∀ files, (IOBlock.removeItem removed :
                IOBlock Image Handler).perform serializer files key = files key := by
              simp [IOBlock.perform, differs]
            cases fromMemory with
            | true =>
                apply coherent.enqueue _ (held_of_forgotten removed)
                · simp [latest, differs]
                · exact .inl ⟨untouched, by simp [filing, same]⟩
                · simp
            | false =>
                apply coherent.enqueue _ (fun _ => id) rfl
                · exact .inl ⟨untouched, by simp [filing, same]⟩
                · simp
  | retrieveImage readKey completionHandler =>
      simp only [handle, retrieveImage, Option.some.injEq] at step
      split at step
      · cases step
        exact coherent.remember rfl rfl fun _ => id
      · cases step
        apply coherent.enqueue _ (fun _ => id) rfl
        · exact .inl ⟨fun _ => rfl, rfl⟩
        · simp
  | evict evicted =>
      cases step
      exact coherent.remember rfl rfl (held_of_forgotten evicted)
  | clearMemoryCache =>
      cases step
      apply coherent.remember rfl rfl
      intro image held
      cases held
  | clearDiskCache =>
      cases step
      apply coherent.enqueue _ (fun _ => id) rfl
      · exact .inr ⟨fun _ => rfl, rfl, rfl⟩
      · simp
  | cleanExpiredDiskCache keys =>
      cases step
      apply coherent.enqueue _ (fun _ => id) rfl
      · by_cases goes : key ∈ keys
        · exact .inr ⟨by simp [IOBlock.perform, goes], rfl, by simp [filing, goes]⟩
        · exact .inl ⟨by simp [IOBlock.perform, goes], by simp [filing, goes]⟩
      · simp
  | performBlock => exact coherent.performBlock step

theorem coherent_of_run (refl : ∀ image, alike image image)
    (run : Run ((system serializer).restrict (Calm key)) (launched files) history cache)
    (faithful : ∀ occurrence ∈ history, ∀ image original,
      occurrence.2 = .store image original key true →
      ∃ data decoded, serializer.data image original = some data ∧
        serializer.image data = some decoded ∧ alike decoded image) :
    Coherent serializer (launchImages serializer files) alike key history cache := by
  induction run with
  | nil =>
      refine ⟨?_, ?_, ?_, ?_, ?_⟩
      · intro image held
        cases held
      · intro _
        change Option.Rel alike (launchImages serializer files key)
          (launchImages serializer files key)
        cases launchImages serializer files key with
        | none => exact .none
        | some image => exact .some (refl image)
      · intro missing
        cases missing
      · intro before completionHandler rest split
        simp [launched] at split
      · intro completionHandler image queued
        cases queued
  | snoc run step ih =>
      have before := ih fun occurrence occurred => faithful occurrence (.tail _ occurred)
      exact before.next refl step.1 (faithful _ (.head _)) step.2

/-- What a read of the key is completed with agrees with what was stored last. -/
theorem Coherent.completion (coherent : Coherent serializer found alike result.key history cache)
    (completed : completes serializer (cache, event) = some result) :
    Agrees alike (filing found result.key history) result.image
      (latest found history result.key) := by
  rcases Option.bind_eq_some_iff.mp completed with ⟨⟨after, isResult⟩, handled, rfl⟩
  cases event with
  | retrieveImage key completionHandler =>
      simp only [handle, retrieveImage, Option.some.injEq] at handled
      split at handled
      next image held =>
        cases handled
        exact coherent.memory image held
      next => cases handled
  | performBlock =>
      cases queue : cache.ioQueue with
      | nil => simp [handle, queue] at handled
      | cons block blocks =>
          simp only [handle, queue, Option.some.injEq] at handled
          cases block with
          | retrieve key completionHandler =>
              simp only [ImageCache.performBlock, diskImage] at handled
              split at handled
              next => cases handled
              next missing =>
                cases handled
                have agrees := coherent.reads [] completionHandler blocks queue
                rw [show fileImage serializer [] cache.files key = none from missing] at agrees
                exact agrees
          | putBack key completionHandler image =>
              cases handled
              exact coherent.puts completionHandler image (by simp [queue])
          | createFile => cases handled
          | removeItem => cases handled
          | removeAll => cases handled
          | removeItems => cases handled
  | store => cases handled
  | removeImage => cases handled
  | evict => cases handled
  | clearMemoryCache => cases handled
  | clearDiskCache => cases handled
  | cleanExpiredDiskCache => cases handled

end Runs

/-- Files hold the bytes of an image. -/
def bytes : CacheSerializer Data where
  data image _ := some image
  image := some

/-- Scripts of the cache. -/
theorem exists_cache_run (serializer : CacheSerializer Image)
    (delivered : ImageCache Image Handler → CacheEvent Image Handler → Prop)
    [∀ cache event, Decidable (delivered cache event)] (start : ImageCache Image Handler)
    (script : List (CacheEvent Image Handler))
    (test : History (ImageCache Image Handler) (CacheEvent Image Handler) →
      ImageCache Image Handler → Bool)
    (passes : (execute (fun cache event =>
      if delivered cache event then (cache.handle serializer event).map Prod.fst else none)
        start script).any (fun result => test result.1 result.2) = true) :
    ∃ history cache, Run ((system serializer).restrict delivered) start history cache ∧
      test history cache = true := by
  apply exists_restricted_run ?_ script test passes
  intro cache event after handled
  rcases Option.map_eq_some_iff.mp handled with ⟨⟨_, completed⟩, step, rfl⟩
  exact ⟨completed, step⟩

/-- An image is removed while a read of it is queued: the read puts it back into memory. -/
example : ∃ (history : History (ImageCache Data ℕ) (CacheEvent Data ℕ)) (cache : ImageCache Data ℕ),
    Run ((system bytes).restrict fun _ _ => True) (launched fun _ => none) history cache ∧
      (cache.ioQueue.isEmpty && decide (cache.memoryCache "sub" = some [137]) &&
        decide (latest (fun _ => none) history "sub" = none)) = true :=
  exists_cache_run bytes (fun _ _ => True) (launched fun _ => none)
    [.store [137] none "sub" true, .evict "sub", .retrieveImage "sub" 0, .performBlock,
      .removeImage "sub" true true, .performBlock, .performBlock, .performBlock]
    (fun history cache => cache.ioQueue.isEmpty &&
      decide (cache.memoryCache "sub" = some [137]) &&
        decide (latest (fun _ => none) history "sub" = none)) (by decide +kernel)

end ImageCache

end Kingfisher

end OneSecond
