import MatrixGoose.Foundation.KeyedStore

/-!
# Cached media content

Files and thumbnails of a media event are cached under a key made from a source
and a format.  Getting and removing build that request on their own from the
event content; what a removal leaves behind depends on whether both arrive at
the same key.
-/

namespace MatrixGoose
namespace Media

open Foundation

/-- The url of an encrypted file; the key material is used only to decrypt. -/
structure EncryptedFile where
  url : String
deriving DecidableEq

inductive MediaSource
  | plain (uri : String)
  | encrypted (file : EncryptedFile)
deriving DecidableEq

inductive Method
  | crop
  | scale
deriving DecidableEq

structure MediaThumbnailSize where
  method : Method
  width : Nat
  height : Nat
deriving DecidableEq

inductive MediaFormat
  | file
  | thumbnail (size : MediaThumbnailSize)
deriving DecidableEq

structure MediaRequest where
  source : MediaSource
  format : MediaFormat
deriving DecidableEq

structure MediaEventContent where
  source : Option MediaSource
  thumbnailSource : Option MediaSource

structure MediaServer (Error Content : Type) where
  getContent : String -> Except Error Content
  getContentThumbnail : String -> Nat -> Nat -> Except Error Content

section Client

variable {Store Key Error Content : Type}
variable (cache : KeyedStore Store Key Content)
variable (uniqueKey : MediaRequest -> Key)
variable (server : MediaServer Error Content)

def fetch (request : MediaRequest) : Except Error Content :=
  match request.source with
  | MediaSource.encrypted file => server.getContent file.url
  | MediaSource.plain uri =>
      match request.format with
      | MediaFormat.thumbnail size =>
          server.getContentThumbnail uri size.width size.height
      | MediaFormat.file => server.getContent uri

def getMediaContent (request : MediaRequest) (useCache : Bool) (store : Store) :
    Except Error Content × Store :=
  let content := if useCache then cache.get store (uniqueKey request) else none
  match content with
  | some content => (Except.ok content, store)
  | none =>
      match fetch server request with
      | Except.error e => (Except.error e, store)
      | Except.ok content =>
          (Except.ok content,
            if useCache then cache.add store (uniqueKey request) content else store)

def removeMediaContent (request : MediaRequest) (store : Store) : Store :=
  cache.remove store (uniqueKey request)

def getFrom (source : Option MediaSource) (format : MediaFormat)
    (useCache : Bool) (store : Store) : Except Error (Option Content) × Store :=
  match source with
  | none => (Except.ok none, store)
  | some source =>
      let got := getMediaContent cache uniqueKey server { source, format } useCache store
      (got.1.map some, got.2)

def removeFrom (source : Option MediaSource) (format : MediaFormat)
    (store : Store) : Store :=
  match source with
  | some source => removeMediaContent cache uniqueKey { source, format } store
  | none => store

def getFile (eventContent : MediaEventContent) (useCache : Bool) (store : Store) :
    Except Error (Option Content) × Store :=
  getFrom cache uniqueKey server eventContent.source MediaFormat.file useCache store

def removeFile (eventContent : MediaEventContent) (store : Store) : Store :=
  removeFrom cache uniqueKey eventContent.source MediaFormat.file store

def getThumbnail (eventContent : MediaEventContent) (size : MediaThumbnailSize)
    (useCache : Bool) (store : Store) : Except Error (Option Content) × Store :=
  getFrom cache uniqueKey server eventContent.thumbnailSource
    (MediaFormat.thumbnail size) useCache store

/-- `remove_thumbnail` asks the content for its source, not for its thumbnail
source. -/
def removeThumbnail (eventContent : MediaEventContent) (size : MediaThumbnailSize)
    (store : Store) : Store :=
  removeFrom cache uniqueKey eventContent.source (MediaFormat.thumbnail size) store

def keyOf (source : MediaSource) (format : MediaFormat) : Key :=
  uniqueKey { source, format }

/-- Compared with the store before, nothing is left under the key of the source
that was got, and all other entries are as they were. -/
structure OnlyForgets (source : Option MediaSource) (format : MediaFormat)
    (before after : Store) : Prop where
  forgotten : forall src, source = some src ->
    cache.get after (keyOf uniqueKey src format) = none
  others : forall k, (forall src, source = some src ->
      k ≠ keyOf uniqueKey src format) ->
    cache.get after k = cache.get before k

/-- A get with the cache has nothing to read and nothing to write. -/
def TouchesNothing (source : Option MediaSource) (format : MediaFormat)
    (store : Store) : Prop :=
  forall src, source = some src ->
    cache.get store (keyOf uniqueKey src format) = none ∧
      exists e, fetch server { source := src, format } = Except.error e

/-!
# One get and one removal
-/

variable {cache uniqueKey server}
variable {source : Option MediaSource} {format : MediaFormat} {store : Store}

theorem getMediaContent_of_hit {request : MediaRequest} {content : Content}
    (h : cache.get store (uniqueKey request) = some content) :
    getMediaContent cache uniqueKey server request true store =
      (Except.ok content, store) := by
  rw [getMediaContent, if_pos rfl, h]

theorem getMediaContent_of_failure {request : MediaRequest} {e : Error}
    (hget : cache.get store (uniqueKey request) = none)
    (hfetch : fetch server request = Except.error e) :
    getMediaContent cache uniqueKey server request true store =
      (Except.error e, store) := by
  rw [getMediaContent, if_pos rfl, hget]
  dsimp only
  rw [hfetch]

theorem getMediaContent_of_answer {request : MediaRequest} {content : Content}
    (hget : cache.get store (uniqueKey request) = none)
    (hfetch : fetch server request = Except.ok content) :
    getMediaContent cache uniqueKey server request true store =
      (Except.ok content, cache.add store (uniqueKey request) content) := by
  rw [getMediaContent, if_pos rfl, hget]
  dsimp only
  rw [hfetch]
  rfl

theorem getFrom_of_touchesNothing
    (h : TouchesNothing cache uniqueKey server source format store) :
    (getFrom cache uniqueKey server source format true store).2 = store := by
  cases source with
  | none => rfl
  | some src =>
      rcases h src rfl with ⟨hget, e, hfetch⟩
      rw [getFrom, getMediaContent_of_failure hget hfetch]

theorem get_getFrom_self
    (h : ¬ TouchesNothing cache uniqueKey server source format store) :
    exists src, source = some src ∧
      cache.get (getFrom cache uniqueKey server source format true store).2
        (keyOf uniqueKey src format) ≠ none := by
  cases source with
  | none =>
      apply absurd _ h
      intro src hsrc
      cases hsrc
  | some src =>
      apply Exists.intro src
      constructor
      · rfl
      · cases hget : cache.get store (keyOf uniqueKey src format) with
        | some content =>
            rw [getFrom, getMediaContent_of_hit hget, hget]
            simp
        | none =>
            cases hfetch : fetch server { source := src, format } with
            | error e =>
                apply absurd _ h
                intro other hother
                cases hother
                exact ⟨hget, e, hfetch⟩
            | ok content =>
                rw [getFrom, getMediaContent_of_answer hget hfetch]
                dsimp only
                rw [keyOf, cache.get_add_self]
                simp

theorem get_getFrom_of_ne {k : Key}
    (hk : forall src, source = some src -> k ≠ keyOf uniqueKey src format) :
    cache.get (getFrom cache uniqueKey server source format true store).2 k =
      cache.get store k := by
  by_cases hnothing : TouchesNothing cache uniqueKey server source format store
  · rw [getFrom_of_touchesNothing hnothing]
  · cases source with
    | none => rfl
    | some src =>
        cases hget : cache.get store (keyOf uniqueKey src format) with
        | some content => rw [getFrom, getMediaContent_of_hit hget]
        | none =>
            cases hfetch : fetch server { source := src, format } with
            | error e => rw [getFrom, getMediaContent_of_failure hget hfetch]
            | ok content =>
                rw [getFrom, getMediaContent_of_answer hget hfetch]
                exact cache.get_add_of_ne store _ content k (hk src rfl)

theorem get_removeFrom_self {src : MediaSource} (h : source = some src) :
    cache.get (removeFrom cache uniqueKey source format store)
      (keyOf uniqueKey src format) = none := by
  rw [h, removeFrom, removeMediaContent, keyOf, cache.get_remove_self]

theorem get_removeFrom_of_ne {k : Key}
    (hk : forall src, source = some src -> k ≠ keyOf uniqueKey src format) :
    cache.get (removeFrom cache uniqueKey source format store) k =
      cache.get store k := by
  cases source with
  | none => rfl
  | some src => exact cache.get_remove_of_ne store _ k (hk src rfl)

theorem get_removeFrom_of_absent
    (h : forall src, source = some src ->
      cache.get store (keyOf uniqueKey src format) = none) (k : Key) :
    cache.get (removeFrom cache uniqueKey source format store) k =
      cache.get store k := by
  cases source with
  | none => rfl
  | some src => exact cache.get_remove_of_absent (h src rfl) k

/-!
# A removal behind a get
-/

def SameEntry (uniqueKey : MediaRequest -> Key) (got removed : Option MediaSource)
    (format : MediaFormat) : Prop :=
  exists src other, got = some src ∧ removed = some other ∧
    keyOf uniqueKey other format = keyOf uniqueKey src format

theorem onlyForgets_of_sameEntry {got removed : Option MediaSource}
    (h : SameEntry uniqueKey got removed format) :
    OnlyForgets cache uniqueKey got format store
      (removeFrom cache uniqueKey removed format
        (getFrom cache uniqueKey server got format true store).2) := by
  rcases h with ⟨src, other, hgot, hremoved, hkey⟩
  constructor
  · intro src' hsrc'
    rw [hgot] at hsrc'
    rw [← Option.some.inj hsrc', ← hkey]
    exact get_removeFrom_self hremoved
  · intro k hk
    rw [get_removeFrom_of_ne, get_getFrom_of_ne hk]
    intro other' hother' hEq
    rw [hremoved] at hother'
    rw [← Option.some.inj hother', hkey] at hEq
    exact hk src hgot hEq

/-- Getting through the cache and then removing forgets exactly what was got if
both go to one entry, or if the get leaves no entry and the removal finds none. -/
theorem onlyForgets_iff {got removed : Option MediaSource} :
    OnlyForgets cache uniqueKey got format store
        (removeFrom cache uniqueKey removed format
          (getFrom cache uniqueKey server got format true store).2) <->
      SameEntry uniqueKey got removed format ∨
        TouchesNothing cache uniqueKey server got format store ∧
          forall src, removed = some src ->
            cache.get store (keyOf uniqueKey src format) = none := by
  constructor
  · intro h
    by_cases hsame : SameEntry uniqueKey got removed format
    · exact Or.inl hsame
    · apply Or.inr
      constructor
      · by_contra htouch
        rcases get_getFrom_self htouch with ⟨src, hgot, hentry⟩
        have hkept := h.forgotten src hgot
        rw [get_removeFrom_of_ne] at hkept
        · exact hentry hkept
        · intro other hremoved hEq
          exact hsame ⟨src, other, hgot, hremoved, hEq.symm⟩
      · intro other hremoved
        have hother := h.others (keyOf uniqueKey other format) (by
          intro src hgot hEq
          exact hsame ⟨src, other, hgot, hremoved, hEq⟩)
        rw [← hother]
        exact get_removeFrom_self hremoved
  · intro h
    rcases h with hsame | ⟨htouch, habsent⟩
    · exact onlyForgets_of_sameEntry hsame
    · rw [getFrom_of_touchesNothing htouch]
      constructor
      · intro src hgot
        rw [get_removeFrom_of_absent habsent]
        exact (htouch src hgot).1
      · intro k _
        exact get_removeFrom_of_absent habsent k

end Client

section Coherence

variable {Store Key Error Content : Type}

/-- Removing a file forgets exactly what getting it cached.  Removing a
thumbnail does so only if the thumbnail source and the source of the content
have one key, or if nothing was cached and nothing stands under the source. -/
theorem cache_coherence (cache : KeyedStore Store Key Content)
    (uniqueKey : MediaRequest -> Key) (server : MediaServer Error Content)
    (eventContent : MediaEventContent) (store : Store) :
    (forall size : MediaThumbnailSize,
      OnlyForgets cache uniqueKey eventContent.thumbnailSource
          (MediaFormat.thumbnail size) store
          (removeThumbnail cache uniqueKey eventContent size
            (getThumbnail cache uniqueKey server eventContent size true store).2) <->
        SameEntry uniqueKey eventContent.thumbnailSource eventContent.source
            (MediaFormat.thumbnail size) ∨
          TouchesNothing cache uniqueKey server eventContent.thumbnailSource
              (MediaFormat.thumbnail size) store ∧
            forall src, eventContent.source = some src ->
              cache.get store (keyOf uniqueKey src (MediaFormat.thumbnail size)) =
                none) ∧
      OnlyForgets cache uniqueKey eventContent.source MediaFormat.file store
        (removeFile cache uniqueKey eventContent
          (getFile cache uniqueKey server eventContent true store).2) := by
  constructor
  · intro size
    exact onlyForgets_iff
  · apply onlyForgets_iff.mpr
    cases hsource : eventContent.source with
    | none =>
        apply Or.inr
        constructor
        · intro src hsrc
          cases hsrc
        · intro src hsrc
          cases hsrc
    | some src => exact Or.inl ⟨src, src, rfl, rfl, rfl⟩

/-- A picture whose thumbnail has a source of its own leaves the thumbnail in
the cache, and removing it empties another entry. -/
theorem thumbnail_stays_cached :
    let uniqueKey : MediaRequest -> MediaRequest := fun request => request
    let cache := KeyedStore.ofFunction MediaRequest String
    let server : MediaServer String String :=
      { getContent := fun uri => Except.ok uri,
        getContentThumbnail := fun uri _ _ => Except.ok uri }
    let size : MediaThumbnailSize :=
      { method := Method.scale, width := 80, height := 60 }
    let picture : MediaEventContent :=
      { source := some (MediaSource.plain "mxc://h/full"),
        thumbnailSource := some (MediaSource.plain "mxc://h/small") }
    ¬ OnlyForgets cache uniqueKey picture.thumbnailSource
      (MediaFormat.thumbnail size) (fun _ => none)
      (removeThumbnail cache uniqueKey picture size
        (getThumbnail cache uniqueKey server picture size true fun _ => none).2) := by
  intro uniqueKey cache server size picture h
  have hkept := h.forgotten (MediaSource.plain "mxc://h/small") rfl
  have hentry : cache.get (removeThumbnail cache uniqueKey picture size
      (getThumbnail cache uniqueKey server picture size true fun _ => none).2)
      (keyOf uniqueKey (MediaSource.plain "mxc://h/small")
        (MediaFormat.thumbnail size)) = some "mxc://h/small" := by
    decide
  rw [hentry] at hkept
  cases hkept

end Coherence

end Media
end MatrixGoose
