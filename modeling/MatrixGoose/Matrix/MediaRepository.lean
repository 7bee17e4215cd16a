import MatrixGoose.Matrix.Media

/-!
# The media repository of a homeserver

What a client may rely on when it uploads files and gets them again: a file stays under the
url that it was given.  A cache whose entries come from the repository then never answers
with anything else.
-/

namespace MatrixGoose
namespace Media

open Foundation

abbrev Bytes := List UInt8

structure MediaFile where
  contentType : String
  data : Bytes

structure MediaRepository (State : Type) where
  /-- The file that was uploaded under a url. -/
  file : State -> String -> Option MediaFile
  /-- The homeserver chooses the url. -/
  upload : State -> MediaFile -> State × String
  /-- The thumbnail of a file. -/
  scale : Bytes -> Nat -> Nat -> Bytes
  server : State -> MediaServer Unit Bytes
  file_upload_self : forall s new, file (upload s new).1 (upload s new).2 = some new
  file_upload_of_some : forall s new url old, file s url = some old ->
    file (upload s new).1 url = some old
  getContent_eq_ok_iff : forall s url content, (server s).getContent url = .ok content <->
    exists found, file s url = some found ∧ found.data = content
  getContentThumbnail_eq_ok_iff : forall s url width height content,
    (server s).getContentThumbnail url width height = .ok content <->
      exists found, file s url = some found ∧ scale found.data width height = content

section Repository

variable {State Store Key : Type} (M : MediaRepository State)

def MediaRepository.shown (format : MediaFormat) (data : Bytes) : Bytes :=
  match format with
  | MediaFormat.file => data
  | MediaFormat.thumbnail size => M.scale data size.width size.height

def unreachable : MediaServer Unit Bytes where
  getContent := fun _ => .error ()
  getContentThumbnail := fun _ _ _ => .error ()

def MediaRepository.answers (s : State) (succeeds : Bool) : MediaServer Unit Bytes :=
  if succeeds then M.server s else unreachable

def Keeps (s s' : State) : Prop :=
  forall url file, M.file s url = some file -> M.file s' url = some file

def Coherent (cache : KeyedStore Store Key Bytes) (uniqueKey : MediaRequest -> Key) (s : State)
    (store : Store) : Prop :=
  forall url format content,
    cache.get store (uniqueKey { source := MediaSource.plain url, format }) = some content ->
      fetch (M.server s) { source := MediaSource.plain url, format } = .ok content

def TellsApart (uniqueKey : MediaRequest -> Key) : Prop :=
  forall url format url' format',
    uniqueKey { source := MediaSource.plain url, format } =
      uniqueKey { source := MediaSource.plain url', format := format' } ->
        url = url' ∧ format = format'

theorem tellsApart_id : TellsApart (id : MediaRequest -> MediaRequest) := by
  intro url format url' format' heq
  cases heq
  exact ⟨rfl, rfl⟩

def Plain : Option MediaSource -> Prop
  | some (MediaSource.encrypted _) => False
  | _ => True

variable {M} {s s' : State} {url : String} {format : MediaFormat} {content : Bytes}

theorem fetch_eq_ok_iff :
    fetch (M.server s) { source := MediaSource.plain url, format } = .ok content <->
      exists found, M.file s url = some found ∧ M.shown format found.data = content := by
  cases format with
  | file => exact M.getContent_eq_ok_iff s url content
  | thumbnail size => exact M.getContentThumbnail_eq_ok_iff s url size.width size.height content

theorem fetch_of_file {found : MediaFile} (hfile : M.file s url = some found) :
    fetch (M.server s) { source := MediaSource.plain url, format } =
      .ok (M.shown format found.data) :=
  fetch_eq_ok_iff.mpr ⟨found, hfile, rfl⟩

theorem fetch_keep (hkeeps : Keeps M s s')
    (h : fetch (M.server s) { source := MediaSource.plain url, format } = .ok content) :
    fetch (M.server s') { source := MediaSource.plain url, format } = .ok content := by
  rcases fetch_eq_ok_iff.mp h with ⟨found, hfile, hcontent⟩
  exact fetch_eq_ok_iff.mpr ⟨found, hkeeps url found hfile, hcontent⟩

theorem fetch_unreachable (request : MediaRequest) : fetch unreachable request = .error () := by
  rcases request with ⟨uri | file, _ | size⟩ <;> rfl

theorem Keeps.refl (s : State) : Keeps M s s :=
  fun _ _ h => h

theorem keeps_upload (s : State) (new : MediaFile) : Keeps M s (M.upload s new).1 :=
  M.file_upload_of_some s new

/-!
# What a cache keeps
-/

variable {cache : KeyedStore Store Key Bytes} {uniqueKey : MediaRequest -> Key} {store : Store}

theorem Coherent.of_empty (hempty : forall k, cache.get store k = none) :
    Coherent M cache uniqueKey s store := by
  intro url format content hget
  rw [hempty] at hget
  cases hget

theorem Coherent.keep (hkeeps : Keeps M s s') (h : Coherent M cache uniqueKey s store) :
    Coherent M cache uniqueKey s' store := by
  intro url format content hget
  exact fetch_keep hkeeps (h url format content hget)

theorem Coherent.add (htells : TellsApart uniqueKey) (h : Coherent M cache uniqueKey s store)
    (hfetch : fetch (M.server s) { source := MediaSource.plain url, format } = .ok content) :
    Coherent M cache uniqueKey s
      (cache.add store (uniqueKey { source := MediaSource.plain url, format }) content) := by
  intro other format' content' hget
  rcases eq_or_ne (uniqueKey { source := MediaSource.plain other, format := format' })
    (uniqueKey { source := MediaSource.plain url, format }) with heq | hne
  · rcases htells _ _ _ _ heq with ⟨rfl, rfl⟩
    rw [cache.get_add_self] at hget
    cases hget
    exact hfetch
  · rw [cache.get_add_of_ne _ _ _ _ hne] at hget
    exact h _ _ _ hget

theorem Coherent.getMediaContent (htells : TellsApart uniqueKey) (succeeds : Bool)
    (url : String) (format : MediaFormat) (h : Coherent M cache uniqueKey s store) :
    Coherent M cache uniqueKey s
      (Media.getMediaContent cache uniqueKey (M.answers s succeeds)
        { source := MediaSource.plain url, format } true store).2 := by
  cases hget : cache.get store (uniqueKey { source := MediaSource.plain url, format }) with
  | some content =>
      rw [Media.getMediaContent_of_hit hget]
      exact h
  | none =>
      cases hfetch : fetch (M.answers s succeeds)
        { source := MediaSource.plain url, format } with
      | error e =>
          rw [Media.getMediaContent_of_failure hget hfetch]
          exact h
      | ok content =>
          rw [Media.getMediaContent_of_answer hget hfetch]
          cases succeeds with
          | true => exact h.add htells hfetch
          | false => exact absurd ((fetch_unreachable _).symm.trans hfetch) nofun

theorem Coherent.getFrom (htells : TellsApart uniqueKey) (succeeds : Bool)
    {source : Option MediaSource} (hplain : Plain source) (format : MediaFormat)
    (h : Coherent M cache uniqueKey s store) :
    Coherent M cache uniqueKey s
      (Media.getFrom cache uniqueKey (M.answers s succeeds) source format true store).2 := by
  cases source with
  | none => exact h
  | some source =>
      cases source with
      | encrypted file => exact hplain.elim
      | plain url => exact h.getMediaContent htells succeeds url format

theorem Coherent.removeMediaContent (request : MediaRequest)
    (h : Coherent M cache uniqueKey s store) :
    Coherent M cache uniqueKey s (Media.removeMediaContent cache uniqueKey request store) := by
  intro url format content hget
  rcases eq_or_ne (uniqueKey { source := MediaSource.plain url, format }) (uniqueKey request)
    with heq | hne
  · rw [heq, Media.removeMediaContent, cache.get_remove_self] at hget
    cases hget
  · rw [Media.removeMediaContent, cache.get_remove_of_ne _ _ _ hne] at hget
    exact h _ _ _ hget

theorem Coherent.removeFrom (source : Option MediaSource) (format : MediaFormat)
    (h : Coherent M cache uniqueKey s store) :
    Coherent M cache uniqueKey s (Media.removeFrom cache uniqueKey source format store) := by
  cases source with
  | none => exact h
  | some source => exact h.removeMediaContent { source, format }

/-- Through a coherent cache a client gets what the homeserver has, unless its request
fails. -/
theorem Coherent.getFrom_eq (h : Coherent M cache uniqueKey s store) {found : MediaFile}
    (hfile : M.file s url = some found) (useCache succeeds : Bool) :
    (Media.getFrom cache uniqueKey (M.answers s succeeds) (some (MediaSource.plain url)) format
        useCache store).1 = .ok (some (M.shown format found.data)) ∨
      succeeds = false ∧
        (Media.getFrom cache uniqueKey (M.answers s succeeds) (some (MediaSource.plain url))
          format useCache store).1 = .error () := by
  unfold Media.getFrom Media.getMediaContent
  dsimp only
  cases hcached : if useCache then
      cache.get store (uniqueKey { source := MediaSource.plain url, format }) else none with
  | some content =>
      left
      have hget : cache.get store (uniqueKey { source := MediaSource.plain url, format }) =
          some content := by
        cases useCache with
        | true => exact hcached
        | false => cases hcached
      have hcontent := h url format content hget
      rw [fetch_of_file hfile] at hcontent
      cases hcontent
      rfl
  | none =>
      cases succeeds with
      | true =>
          left
          have hanswer : fetch (M.answers s true) { source := MediaSource.plain url, format } =
            .ok (M.shown format found.data) := fetch_of_file hfile
          dsimp only
          rw [hanswer]
          rfl
      | false =>
          right
          have hanswer : fetch (M.answers s false) { source := MediaSource.plain url, format } =
            .error () := fetch_unreachable _
          dsimp only
          rw [hanswer]
          exact ⟨rfl, rfl⟩

end Repository

def serverPart : List Char :=
  ['m', 'x', 'c', ':', '/', '/', 'h', '/']

/-- The position of the file with this url; it is the length of the media id. -/
def positionOf (url : String) : Nat :=
  url.toList.length - serverPart.length

theorem positionOf_append_replicate (n : Nat) :
    positionOf (String.ofList (serverPart ++ List.replicate n 'm')) = n := by
  rw [positionOf, String.toList_ofList, List.length_append, List.length_replicate,
    Nat.add_sub_cancel_left]

def fileList (scale : Bytes -> Nat -> Nat -> Bytes) : MediaRepository (List MediaFile) where
  file files url := files[positionOf url]?
  upload files new :=
    (files ++ [new], String.ofList (serverPart ++ List.replicate files.length 'm'))
  scale := scale
  server files :=
    { getContent := fun url => match files[positionOf url]? with
        | some found => .ok found.data
        | none => .error ()
      getContentThumbnail := fun url width height => match files[positionOf url]? with
        | some found => .ok (scale found.data width height)
        | none => .error () }
  file_upload_self := by
    intro files new
    rw [positionOf_append_replicate]
    simp
  file_upload_of_some := by
    intro files new url old h
    rw [List.getElem?_append_left (List.getElem?_eq_some_iff.mp h).1]
    exact h
  getContent_eq_ok_iff := by
    intro files url content
    dsimp only
    cases files[positionOf url]? <;> simp
  getContentThumbnail_eq_ok_iff := by
    intro files url width height content
    dsimp only
    cases files[positionOf url]? <;> simp

end Media
end MatrixGoose
