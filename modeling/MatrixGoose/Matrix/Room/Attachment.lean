import Mathlib.Data.List.Nodup
import MatrixGoose.Foundation.Components
import MatrixGoose.Matrix.MediaRepository

/-!
# Attachments

A call of `send_attachment` uploads the thumbnail and the data and sends a message that
refers to both.  Any number of calls take turns with the uploads of others and with a
client that gets the files of the messages through its cache.  The media repository of the
homeserver is a parameter.
-/

namespace MatrixGoose

open Foundation
open Foundation.Components

namespace Attachment

open Media (Bytes MediaFile MediaRepository MediaSource MediaEventContent MediaRequest
  MediaFormat MediaThumbnailSize Coherent Keeps Plain TellsApart)

structure Mime where
  type_ : String
  subtype : String
  params : String

def Mime.essenceStr (m : Mime) : String :=
  m.type_ ++ "/" ++ m.subtype

def Mime.asRef (m : Mime) : String :=
  m.essenceStr ++ m.params

/-!
# What is known of an attachment
-/

structure BaseImageInfo where
  height : Option Nat
  width : Option Nat
  size : Option Nat
  blurhash : Option String

structure BaseVideoInfo where
  duration : Option Nat
  height : Option Nat
  width : Option Nat
  size : Option Nat
  blurhash : Option String

structure BaseAudioInfo where
  duration : Option Nat
  size : Option Nat

structure BaseFileInfo where
  size : Option Nat

inductive AttachmentInfo
  | image (info : BaseImageInfo)
  | video (info : BaseVideoInfo)
  | audio (info : BaseAudioInfo)
  | file (info : BaseFileInfo)

structure BaseThumbnailInfo where
  height : Option Nat
  width : Option Nat
  size : Option Nat

structure Thumbnail where
  data : Bytes
  contentType : Mime
  info : Option BaseThumbnailInfo

/-- What a call is given; the last two are of the `AttachmentConfig`. -/
structure Arguments where
  body : String
  contentType : Mime
  data : Bytes
  info : Option AttachmentInfo
  thumbnail : Option Thumbnail

/-!
# What a message says about its attachment
-/

structure ThumbnailInfo where
  height : Option Nat := none
  width : Option Nat := none
  size : Option Nat := none
  mimetype : Option String := none

structure ImageInfo where
  height : Option Nat := none
  width : Option Nat := none
  size : Option Nat := none
  blurhash : Option String := none
  mimetype : Option String := none
  thumbnailSource : Option MediaSource := none
  thumbnailInfo : Option ThumbnailInfo := none

structure VideoInfo where
  duration : Option Nat := none
  height : Option Nat := none
  width : Option Nat := none
  size : Option Nat := none
  blurhash : Option String := none
  mimetype : Option String := none
  thumbnailSource : Option MediaSource := none
  thumbnailInfo : Option ThumbnailInfo := none

structure AudioInfo where
  duration : Option Nat := none
  size : Option Nat := none
  mimetype : Option String := none

structure FileInfo where
  size : Option Nat := none
  mimetype : Option String := none
  thumbnailSource : Option MediaSource := none
  thumbnailInfo : Option ThumbnailInfo := none

inductive MessageType
  | image (body url : String) (info : ImageInfo)
  | audio (body url : String) (info : AudioInfo)
  | video (body url : String) (info : VideoInfo)
  | file (body url : String) (info : FileInfo)

/-- Information of another kind is dropped. -/
def imageInfo : AttachmentInfo -> ImageInfo
  | AttachmentInfo.image info =>
      { height := info.height, width := info.width, size := info.size,
        blurhash := info.blurhash }
  | _ => {}

def videoInfo : AttachmentInfo -> VideoInfo
  | AttachmentInfo.video info =>
      { duration := info.duration, height := info.height, width := info.width,
        size := info.size, blurhash := info.blurhash }
  | _ => {}

def audioInfo : AttachmentInfo -> AudioInfo
  | AttachmentInfo.audio info => { duration := info.duration, size := info.size }
  | _ => {}

def fileInfo : AttachmentInfo -> FileInfo
  | AttachmentInfo.file info => { size := info.size }
  | _ => {}

def thumbnailInfo (thumbnail : Thumbnail) : ThumbnailInfo :=
  let info : ThumbnailInfo := match thumbnail.info with
    | some info => { height := info.height, width := info.width, size := info.size }
    | none => {}
  { info with mimetype := some thumbnail.contentType.asRef }

def messageType (args : Arguments) (url : String)
    (thumbnail : Option (String × ThumbnailInfo)) : MessageType :=
  let mimetype := some args.contentType.asRef
  let thumbnailSource := thumbnail.map fun uploaded => MediaSource.plain uploaded.1
  let thumbnailInfo := thumbnail.map Prod.snd
  if args.contentType.type_ = "image" then
    let info := (args.info.map imageInfo).getD {}
    MessageType.image args.body url { info with mimetype, thumbnailSource, thumbnailInfo }
  else if args.contentType.type_ = "audio" then
    let info := (args.info.map audioInfo).getD {}
    MessageType.audio args.body url { info with mimetype }
  else if args.contentType.type_ = "video" then
    let info := (args.info.map videoInfo).getD {}
    MessageType.video args.body url { info with mimetype, thumbnailSource, thumbnailInfo }
  else
    let info := (args.info.map fileInfo).getD {}
    MessageType.file args.body url { info with mimetype, thumbnailSource, thumbnailInfo }

def MessageType.eventContent : MessageType -> MediaEventContent
  | MessageType.image _ url info =>
      { source := some (MediaSource.plain url), thumbnailSource := info.thumbnailSource }
  | MessageType.audio _ url _ =>
      { source := some (MediaSource.plain url), thumbnailSource := none }
  | MessageType.video _ url info =>
      { source := some (MediaSource.plain url), thumbnailSource := info.thumbnailSource }
  | MessageType.file _ url info =>
      { source := some (MediaSource.plain url), thumbnailSource := info.thumbnailSource }

/-!
# Calls
-/

structure Shared (State Store : Type) where
  media : State
  /-- The messages that were handed to `send`, each with its call. -/
  messages : List (Nat × MessageType)
  /-- The cache of the client that gets the files. -/
  store : Store

inductive Phase
  | notStarted
  | uploadThumbnail (args : Arguments) (thumbnail : Thumbnail)
  | upload (args : Arguments) (thumbnail : Option (String × ThumbnailInfo))
  | send (args : Arguments) (content : MessageType)
  | sending (args : Arguments)
  | returned (args : Arguments) (succeeded : Bool)

inductive Action
  | sendAttachment (args : Arguments)
  | upload (succeeded : Bool)
  | send
  | response (succeeded : Bool)

inductive Outside
  /-- A file is uploaded by somebody else, or by a request whose answer does not arrive. -/
  | upload (file : MediaFile)
  /-- A client gets or removes the files of message `n`; its request can fail. -/
  | getFile (n : Nat) (succeeds : Bool)
  | getThumbnail (n : Nat) (size : MediaThumbnailSize) (succeeds : Bool)
  | removeFile (n : Nat)
  | removeThumbnail (n : Nat) (size : MediaThumbnailSize)

def thumbnailFile (thumbnail : Thumbnail) : MediaFile where
  contentType := thumbnail.contentType.essenceStr
  data := thumbnail.data

def attachmentFile (args : Arguments) : MediaFile where
  contentType := args.contentType.essenceStr
  data := args.data

section Calls

variable {State Store Key : Type}

section Steps

variable (M : MediaRepository State)

def sendAttachment (i : Nat) (shared : Shared State Store) (phase : Phase) (a : Action) :
    Option (Shared State Store × Phase) :=
  match a, phase with
  | Action.sendAttachment args, Phase.notStarted =>
      match args.thumbnail with
      | some thumbnail => some (shared, Phase.uploadThumbnail args thumbnail)
      | none => some (shared, Phase.upload args none)
  | Action.upload true, Phase.uploadThumbnail args thumbnail =>
      let (media, url) := M.upload shared.media (thumbnailFile thumbnail)
      some ({ shared with media }, Phase.upload args (some (url, thumbnailInfo thumbnail)))
  | Action.upload false, Phase.uploadThumbnail args _ =>
      some (shared, Phase.returned args false)
  | Action.upload true, Phase.upload args thumbnail =>
      let (media, url) := M.upload shared.media (attachmentFile args)
      some ({ shared with media }, Phase.send args (messageType args url thumbnail))
  | Action.upload false, Phase.upload args _ => some (shared, Phase.returned args false)
  | Action.send, Phase.send args content =>
      some ({ shared with messages := shared.messages ++ [(i, content)] }, Phase.sending args)
  | Action.response succeeded, Phase.sending args =>
      some (shared, Phase.returned args succeeded)
  | _, _ => none

variable (cache : KeyedStore Store Key Bytes) (uniqueKey : MediaRequest -> Key)

/-- What a client does to its cache with the content of message `n`. -/
def useMessage (shared : Shared State Store) (n : Nat) (use : MediaEventContent -> Store) :
    Option (Shared State Store) :=
  (shared.messages[n]?).map fun message =>
    { shared with store := use message.2.eventContent }

def outsideStep (shared : Shared State Store) : Outside -> Option (Shared State Store)
  | Outside.upload file => some { shared with media := (M.upload shared.media file).1 }
  | Outside.getFile n succeeds =>
      useMessage shared n fun content =>
        (Media.getFile cache uniqueKey (M.answers shared.media succeeds) content true
          shared.store).2
  | Outside.getThumbnail n size succeeds =>
      useMessage shared n fun content =>
        (Media.getThumbnail cache uniqueKey (M.answers shared.media succeeds) content size true
          shared.store).2
  | Outside.removeFile n =>
      useMessage shared n fun content =>
        Media.removeFile cache uniqueKey content shared.store
  | Outside.removeThumbnail n size =>
      useMessage shared n fun content =>
        Media.removeThumbnail cache uniqueKey content size shared.store

def attachments (media : State) (store : Store) :
    Components Nat (Shared State Store) Phase Outside Action where
  initShared := { media, messages := [], store }
  initMemory := fun _ => Phase.notStarted
  environment := outsideStep M cache uniqueKey
  step := sendAttachment M

end Steps

abbrev AttachmentWorld (State Store : Type) := World Nat (Shared State Store) Phase

/-!
# What a step can do
-/

inductive AttachmentStep (M : MediaRepository State) (i : Nat) (media : State) :
    Phase -> State -> List (Nat × MessageType) -> Phase -> Prop
  | withThumbnail {args : Arguments} {thumbnail : Thumbnail}
      (hthumbnail : args.thumbnail = some thumbnail) :
      AttachmentStep M i media Phase.notStarted media [] (Phase.uploadThumbnail args thumbnail)
  | withoutThumbnail {args : Arguments} (hthumbnail : args.thumbnail = none) :
      AttachmentStep M i media Phase.notStarted media [] (Phase.upload args none)
  | thumbnailUploaded (args : Arguments) (thumbnail : Thumbnail) :
      AttachmentStep M i media (Phase.uploadThumbnail args thumbnail)
        (M.upload media (thumbnailFile thumbnail)).1 []
        (Phase.upload args
          (some ((M.upload media (thumbnailFile thumbnail)).2, thumbnailInfo thumbnail)))
  | uploaded (args : Arguments) (thumbnail : Option (String × ThumbnailInfo)) :
      AttachmentStep M i media (Phase.upload args thumbnail)
        (M.upload media (attachmentFile args)).1 []
        (Phase.send args (messageType args (M.upload media (attachmentFile args)).2 thumbnail))
  | sent (args : Arguments) (content : MessageType) :
      AttachmentStep M i media (Phase.send args content) media [(i, content)]
        (Phase.sending args)
  | answered (args : Arguments) (succeeded : Bool) :
      AttachmentStep M i media (Phase.sending args) media [] (Phase.returned args succeeded)
  | thumbnailFailed (args : Arguments) (thumbnail : Thumbnail) :
      AttachmentStep M i media (Phase.uploadThumbnail args thumbnail) media []
        (Phase.returned args false)
  | uploadFailed (args : Arguments) (thumbnail : Option (String × ThumbnailInfo)) :
      AttachmentStep M i media (Phase.upload args thumbnail) media []
        (Phase.returned args false)

variable {M : MediaRepository State}
variable {i : Nat} {shared shared' : Shared State Store} {phase phase' : Phase} {a : Action}

theorem sendAttachment_of_eq_some
    (hstep : sendAttachment M i shared phase a = some (shared', phase')) :
    exists messages, shared'.store = shared.store ∧
      shared'.messages = shared.messages ++ messages ∧
      AttachmentStep M i shared.media phase shared'.media messages phase' := by
  have hnothing : shared.messages = shared.messages ++ [] := (List.append_nil _).symm
  cases a with
  | sendAttachment args =>
      cases phase <;> simp only [sendAttachment, reduceCtorEq] at hstep
      split at hstep
      · next thumbnail hthumbnail =>
          cases hstep
          exact ⟨[], rfl, hnothing, AttachmentStep.withThumbnail hthumbnail⟩
      · next hthumbnail =>
          cases hstep
          exact ⟨[], rfl, hnothing, AttachmentStep.withoutThumbnail hthumbnail⟩
  | upload succeeded =>
      cases phase <;> cases succeeded <;> simp only [sendAttachment, reduceCtorEq] at hstep
      · next args thumbnail =>
          cases hstep
          exact ⟨[], rfl, hnothing, AttachmentStep.thumbnailFailed args thumbnail⟩
      · next args thumbnail =>
          cases hstep
          exact ⟨[], rfl, hnothing, AttachmentStep.thumbnailUploaded args thumbnail⟩
      · next args thumbnail =>
          cases hstep
          exact ⟨[], rfl, hnothing, AttachmentStep.uploadFailed args thumbnail⟩
      · next args thumbnail =>
          cases hstep
          exact ⟨[], rfl, hnothing, AttachmentStep.uploaded args thumbnail⟩
  | send =>
      cases phase <;> simp only [sendAttachment, reduceCtorEq] at hstep
      next args content =>
        cases hstep
        exact ⟨_, rfl, rfl, AttachmentStep.sent args content⟩
  | response succeeded =>
      cases phase <;> simp only [sendAttachment, reduceCtorEq] at hstep
      next args =>
        cases hstep
        exact ⟨[], rfl, hnothing, AttachmentStep.answered args succeeded⟩

/-!
# What the messages refer to
-/

def ThumbnailUploaded (M : MediaRepository State) (media : State) :
    Option Thumbnail -> Option (String × ThumbnailInfo) -> Prop
  | none, none => True
  | some thumbnail, some (url, info) =>
      M.file media url = some (thumbnailFile thumbnail) ∧ info = thumbnailInfo thumbnail
  | _, _ => False

/-- A message about the attachment of a call, whose files are on the homeserver. -/
def Carries (M : MediaRepository State) (media : State) (args : Arguments)
    (content : MessageType) : Prop :=
  exists url thumbnail, content = messageType args url thumbnail ∧
    M.file media url = some (attachmentFile args) ∧
    ThumbnailUploaded M media args.thumbnail thumbnail

def Prepared (M : MediaRepository State) (media : State) : Phase -> Prop
  | Phase.uploadThumbnail args thumbnail => args.thumbnail = some thumbnail
  | Phase.upload args thumbnail => ThumbnailUploaded M media args.thumbnail thumbnail
  | Phase.send args content => Carries M media args content
  | _ => True

def Phase.HasSent (args : Arguments) : Phase -> Prop
  | Phase.sending given => given = args
  | Phase.returned given _ => given = args
  | _ => False

structure AttachmentsKept (M : MediaRepository State) (w : AttachmentWorld State Store) :
    Prop where
  prepared : Everywhere (fun _ shared phase => Prepared M shared.media phase) w
  carried : forall i content, (i, content) ∈ w.shared.messages ->
    exists args, (w.memory i).HasSent args ∧ Carries M w.shared.media args content
  once : (w.shared.messages.map Prod.fst).Nodup
  sent : forall i args, w.memory i = Phase.sending args ∨ w.memory i = Phase.returned args true ->
    i ∈ w.shared.messages.map Prod.fst

variable {media media' : State} {args : Arguments}
variable {content : MessageType} {messages : List (Nat × MessageType)}

theorem ThumbnailUploaded.keep {thumbnail : Option Thumbnail}
    {uploaded : Option (String × ThumbnailInfo)} (hkeeps : Keeps M media media')
    (h : ThumbnailUploaded M media thumbnail uploaded) :
    ThumbnailUploaded M media' thumbnail uploaded := by
  cases thumbnail <;> cases uploaded
  · exact True.intro
  · exact h.elim
  · exact h.elim
  · exact ⟨hkeeps _ _ h.1, h.2⟩

theorem Carries.keep (hkeeps : Keeps M media media') (h : Carries M media args content) :
    Carries M media' args content := by
  rcases h with ⟨url, thumbnail, hcontent, hurl, hthumbnail⟩
  exact ⟨url, thumbnail, hcontent, hkeeps _ _ hurl, hthumbnail.keep hkeeps⟩

theorem Prepared.keep (hkeeps : Keeps M media media') (h : Prepared M media phase) :
    Prepared M media' phase := by
  cases phase with
  | upload args thumbnail => exact ThumbnailUploaded.keep hkeeps h
  | send args content => exact Carries.keep hkeeps h
  | uploadThumbnail args thumbnail => exact h
  | _ => exact True.intro

theorem AttachmentStep.keeps (hstep : AttachmentStep M i media phase media' messages phase') :
    Keeps M media media' := by
  cases hstep with
  | thumbnailUploaded args thumbnail => exact Media.keeps_upload media _
  | uploaded args thumbnail => exact Media.keeps_upload media _
  | _ => exact Keeps.refl _

theorem AttachmentStep.prepared (hprepared : Prepared M media phase)
    (hstep : AttachmentStep M i media phase media' messages phase') :
    Prepared M media' phase' := by
  cases hstep with
  | withThumbnail hthumbnail => exact hthumbnail
  | withoutThumbnail hthumbnail =>
      rw [Prepared, hthumbnail]
      exact True.intro
  | thumbnailUploaded args thumbnail =>
      have hthumbnail : args.thumbnail = some thumbnail := hprepared
      rw [Prepared, hthumbnail]
      exact ⟨M.file_upload_self _ _, rfl⟩
  | uploaded args thumbnail =>
      exact ⟨_, thumbnail, rfl, M.file_upload_self _ _,
        ThumbnailUploaded.keep (Media.keeps_upload media _) hprepared⟩
  | _ => exact True.intro

theorem AttachmentStep.messages_eq
    (hstep : AttachmentStep M i media phase media' messages phase') :
    messages = [] ∨ exists args content, phase = Phase.send args content ∧
      phase' = Phase.sending args ∧ messages = [(i, content)] := by
  cases hstep with
  | sent args content => exact Or.inr ⟨args, content, rfl, rfl, rfl⟩
  | _ => exact Or.inl rfl

theorem AttachmentStep.hasSent (hstep : AttachmentStep M i media phase media' messages phase')
    (h : phase.HasSent args) : phase'.HasSent args ∧ messages = [] := by
  cases hstep with
  | answered given succeeded => exact ⟨h, rfl⟩
  | _ => exact h.elim

theorem AttachmentStep.sends (hstep : AttachmentStep M i media phase media' messages phase')
    (hsent : phase' = Phase.sending args ∨ phase' = Phase.returned args true) :
    (exists content, messages = [(i, content)]) ∨ phase = Phase.sending args := by
  cases hstep with
  | sent _ content => exact Or.inl ⟨content, rfl⟩
  | answered given succeeded =>
      right
      rcases hsent with h | h
      · cases h
      · cases h
        rfl
  | _ => simp at hsent

variable {cache : KeyedStore Store Key Bytes} {uniqueKey : MediaRequest -> Key}
variable {first : State} {store : Store} {w w' : AttachmentWorld State Store}

theorem attachmentsKept_component (hw : AttachmentsKept M w)
    (hstep : (attachments M cache uniqueKey first store).worldStep w (Event.component i a) =
      some w') : AttachmentsKept M w' := by
  rcases sendAttachment_of_eq_some (step_of_worldStep hstep) with
    ⟨messages, _, hmessages, hown⟩
  have hkeeps := hown.keeps
  have hold : forall j content, (j, content) ∈ w.shared.messages ->
      exists args, (w'.memory j).HasSent args ∧ Carries M w'.shared.media args content := by
    intro j content hmem
    rcases hw.carried j content hmem with ⟨args, hsent, hcarries⟩
    refine ⟨args, ?_, hcarries.keep hkeeps⟩
    rcases eq_or_ne j i with rfl | hne
    · exact (hown.hasSent hsent).1
    · rw [memory_of_ne hstep hne]
      exact hsent
  refine ⟨?_, ?_, ?_, ?_⟩
  · intro j
    rcases eq_or_ne j i with rfl | hne
    · exact hown.prepared (hw.prepared j)
    · rw [memory_of_ne hstep hne]
      exact (hw.prepared j).keep hkeeps
  · intro j content hmem
    rw [hmessages] at hmem
    rcases List.mem_append.mp hmem with h | h
    · exact hold j content h
    · rcases hown.messages_eq with rfl | ⟨args, sent, hphase, hsending, rfl⟩
      · cases h
      · cases List.mem_singleton.mp h
        have hprepared := hw.prepared i
        rw [hphase] at hprepared
        refine ⟨args, ?_, Carries.keep hkeeps hprepared⟩
        rw [hsending]
        exact rfl
  · rw [hmessages]
    rcases hown.messages_eq with rfl | ⟨args, content, hphase, _, rfl⟩
    · rw [List.append_nil]
      exact hw.once
    · rw [List.map_append, List.map_singleton, ← List.concat_eq_append]
      apply hw.once.concat
      intro hmem
      rcases List.mem_map.mp hmem with ⟨⟨j, sent⟩, hentry, rfl⟩
      rcases hw.carried _ sent hentry with ⟨given, hsent, _⟩
      rw [hphase] at hsent
      exact hsent
  · intro j args hsent
    rw [hmessages, List.map_append]
    rcases eq_or_ne j i with rfl | hne
    · rcases hown.sends hsent with ⟨content, rfl⟩ | hsending
      · exact List.mem_append_right _ (List.mem_singleton_self _)
      · exact List.mem_append_left _ (hw.sent j args (Or.inl hsending))
    · rw [memory_of_ne hstep hne] at hsent
      exact List.mem_append_left _ (hw.sent j args hsent)

theorem outsideStep_of_eq_some {e : Outside}
    (hstep : outsideStep M cache uniqueKey shared e = some shared') :
    (exists file, shared' = { shared with media := (M.upload shared.media file).1 }) ∨
      exists message source format store, message ∈ shared.messages ∧
        (source = message.2.eventContent.source ∨
          source = message.2.eventContent.thumbnailSource) ∧
        ((exists succeeds, store = (Media.getFrom cache uniqueKey
            (M.answers shared.media succeeds) source format true shared.store).2) ∨
          store = Media.removeFrom cache uniqueKey source format shared.store) ∧
        shared' = { shared with store } := by
  cases e with
  | upload file =>
      cases hstep
      exact Or.inl ⟨file, rfl⟩
  | getFile n succeeds =>
      rcases Option.map_eq_some_iff.mp hstep with ⟨message, hmessage, heq⟩
      exact Or.inr ⟨message, _, _, _, List.mem_of_getElem? hmessage, Or.inl rfl,
        Or.inl ⟨succeeds, rfl⟩, heq.symm⟩
  | getThumbnail n size succeeds =>
      rcases Option.map_eq_some_iff.mp hstep with ⟨message, hmessage, heq⟩
      exact Or.inr ⟨message, _, _, _, List.mem_of_getElem? hmessage, Or.inr rfl,
        Or.inl ⟨succeeds, rfl⟩, heq.symm⟩
  | removeFile n =>
      rcases Option.map_eq_some_iff.mp hstep with ⟨message, hmessage, heq⟩
      exact Or.inr ⟨message, _, _, _, List.mem_of_getElem? hmessage, Or.inl rfl, Or.inr rfl,
        heq.symm⟩
  | removeThumbnail n size =>
      rcases Option.map_eq_some_iff.mp hstep with ⟨message, hmessage, heq⟩
      exact Or.inr ⟨message, _, _, _, List.mem_of_getElem? hmessage, Or.inl rfl, Or.inr rfl,
        heq.symm⟩

theorem outsideStep_keeps {e : Outside}
    (hstep : outsideStep M cache uniqueKey shared e = some shared') :
    Keeps M shared.media shared'.media ∧ shared'.messages = shared.messages := by
  rcases outsideStep_of_eq_some hstep with ⟨file, rfl⟩ | h
  · exact ⟨Media.keeps_upload _ file, rfl⟩
  · rcases h with ⟨message, source, format, store, _, _, _, rfl⟩
    exact ⟨Keeps.refl _, rfl⟩

theorem attachmentsKept_step {e : Event Nat Outside Action} (hw : AttachmentsKept M w)
    (hstep : (attachments M cache uniqueKey first store).worldStep w e = some w') :
    AttachmentsKept M w' := by
  cases e with
  | component i a => exact attachmentsKept_component hw hstep
  | environment e =>
      rcases worldStep_environment_eq_some.mp hstep with ⟨shared, hshared, rfl⟩
      rcases outsideStep_keeps hshared with ⟨hkeeps, hmessages⟩
      refine ⟨fun i => (hw.prepared i).keep hkeeps, ?_, ?_, ?_⟩
      · intro i content hmem
        rw [hmessages] at hmem
        rcases hw.carried i content hmem with ⟨args, hsent, hcarries⟩
        exact ⟨args, hsent, hcarries.keep hkeeps⟩
      · rw [hmessages]
        exact hw.once
      · rw [hmessages]
        exact hw.sent

theorem attachmentsKept_init :
    AttachmentsKept M (attachments M cache uniqueKey first store).system.init := by
  show AttachmentsKept M
    { shared := { media := first, messages := [], store }, memory := fun _ => Phase.notStarted }
  constructor
  · exact fun _ => True.intro
  · intro i content hmem
    cases hmem
  · exact List.nodup_nil
  · intro i args h
    rcases h with h | h <;> cases h

theorem attachmentsKept_run {events : List (Event Nat Outside Action)}
    (hrun : (attachments M cache uniqueKey first store).system.run events = some w) :
    AttachmentsKept M w :=
  TransitionSystem.invariant_runFrom (P := AttachmentsKept M)
    (fun _ _ _ hw hstep => attachmentsKept_step hw hstep) attachmentsKept_init hrun

/-- The thumbnail of a sound is uploaded, but the message does not refer to it. -/
theorem eventContent_messageType (args : Arguments) (url : String)
    (thumbnail : Option (String × ThumbnailInfo)) :
    (messageType args url thumbnail).eventContent =
      { source := some (MediaSource.plain url)
        thumbnailSource :=
          if args.contentType.type_ = "audio" then none
          else thumbnail.map fun uploaded => MediaSource.plain uploaded.1 } := by
  unfold messageType
  split
  · next htype =>
      rw [htype]
      rfl
  · split
    · rfl
    · split
      · rfl
      · rfl

theorem Carries.plain (h : Carries M media args content) :
    Plain content.eventContent.source ∧ Plain content.eventContent.thumbnailSource := by
  rcases h with ⟨url, thumbnail, rfl, _, _⟩
  rw [eventContent_messageType]
  refine ⟨True.intro, ?_⟩
  dsimp only
  split
  · exact True.intro
  · cases thumbnail <;> exact True.intro

theorem coherent_outsideStep (htells : TellsApart uniqueKey) {e : Outside}
    (hcarried : forall message, message ∈ shared.messages ->
      exists args, Carries M shared.media args message.2)
    (hstep : outsideStep M cache uniqueKey shared e = some shared')
    (h : Coherent M cache uniqueKey shared.media shared.store) :
    Coherent M cache uniqueKey shared'.media shared'.store := by
  rcases outsideStep_of_eq_some hstep with ⟨file, rfl⟩ | huse
  · exact h.keep (Media.keeps_upload _ file)
  · rcases huse with ⟨message, source, format, store, hmem, hsource, hstore, rfl⟩
    rcases hcarried message hmem with ⟨args, hcarries⟩
    have hplain : Plain source := by
      rcases hsource with rfl | rfl
      · exact hcarries.plain.1
      · exact hcarries.plain.2
    rcases hstore with ⟨succeeds, rfl⟩ | rfl
    · exact h.getFrom htells succeeds hplain format
    · exact h.removeFrom source format

theorem coherent_run (htells : TellsApart uniqueKey)
    (hempty : forall k, cache.get store k = none)
    {events : List (Event Nat Outside Action)}
    (hrun : (attachments M cache uniqueKey first store).system.run events = some w) :
    AttachmentsKept M w ∧ Coherent M cache uniqueKey w.shared.media w.shared.store := by
  apply TransitionSystem.invariant_runFrom
    (P := fun w => AttachmentsKept M w ∧
      Coherent M cache uniqueKey w.shared.media w.shared.store) ?_ ?_ hrun
  · intro w e w' hw hstep
    rcases hw with ⟨hkept, hcoherent⟩
    refine ⟨attachmentsKept_step hkept hstep, ?_⟩
    cases e with
    | environment e =>
        rcases worldStep_environment_eq_some.mp hstep with ⟨shared, hshared, rfl⟩
        apply coherent_outsideStep htells ?_ hshared hcoherent
        intro message hmem
        rcases hkept.carried message.1 message.2 hmem with ⟨args, _, hcarries⟩
        exact ⟨args, hcarries⟩
    | component i a =>
        rcases sendAttachment_of_eq_some (step_of_worldStep hstep) with
          ⟨messages, hstore, _, hown⟩
        rw [hstore]
        exact hcoherent.keep hown.keeps
  · exact ⟨attachmentsKept_init, Coherent.of_empty hempty⟩

def Gets (succeeds : Bool) (expected : Option Bytes) (result : Except Unit (Option Bytes)) :
    Prop :=
  result = .ok expected ∨ succeeds = false ∧ result = .error ()

/-- However calls, uploads and the use of the cache take turns, from each message a client
gets the data that its call was given, and of the thumbnail what the homeserver makes of
it, unless the attachment is a sound. -/
theorem files_arrive (htells : TellsApart uniqueKey)
    (hempty : forall k, cache.get store k = none)
    {events : List (Event Nat Outside Action)}
    (hrun : (attachments M cache uniqueKey first store).system.run events = some w)
    (hsent : (i, content) ∈ w.shared.messages) (useCache succeeds : Bool) :
    exists args, (w.memory i).HasSent args ∧
      Gets succeeds (some args.data)
        (Media.getFile cache uniqueKey (M.answers w.shared.media succeeds) content.eventContent
          useCache w.shared.store).1 ∧
      forall size, Gets succeeds
        (if args.contentType.type_ = "audio" then none
          else args.thumbnail.map fun thumbnail =>
            M.scale thumbnail.data size.width size.height)
        (Media.getThumbnail cache uniqueKey (M.answers w.shared.media succeeds)
          content.eventContent size useCache w.shared.store).1 := by
  rcases coherent_run htells hempty hrun with ⟨hkept, hcoherent⟩
  rcases hkept.carried i content hsent with ⟨args, hgiven, url, uploaded, rfl, hurl, hthumbnail⟩
  refine ⟨args, hgiven, ?_, ?_⟩
  · rw [eventContent_messageType]
    exact hcoherent.getFrom_eq hurl useCache succeeds
  · intro size
    rw [Media.getThumbnail, eventContent_messageType]
    dsimp only
    split
    · exact Or.inl rfl
    · cases hargs : args.thumbnail with
      | none =>
          rw [hargs] at hthumbnail
          cases uploaded with
          | none => exact Or.inl rfl
          | some uploaded => exact hthumbnail.elim
      | some thumbnail =>
          rw [hargs] at hthumbnail
          cases uploaded with
          | none => exact hthumbnail.elim
          | some uploaded => exact hcoherent.getFrom_eq hthumbnail.1 useCache succeeds

def picture : Arguments where
  body := "cat.jpg"
  contentType := { type_ := "image", subtype := "jpeg", params := "" }
  data := [1, 2, 3]
  info := none
  thumbnail := some
    { data := [4, 5]
      contentType := { type_ := "image", subtype := "jpeg", params := "" }
      info := none }

def pictureSent : List (Event Nat Outside Action) :=
  [Event.component 0 (Action.sendAttachment picture),
    Event.component 0 (Action.upload true),
    Event.environment (Outside.upload { contentType := "text/plain", data := [] }),
    Event.component 0 (Action.upload true),
    Event.component 0 Action.send,
    Event.environment (Outside.getFile 0 false),
    Event.environment (Outside.getFile 0 true),
    Event.component 0 (Action.response false)]

/-- The thumbnail of a file is its first byte. -/
def sampleMedia : MediaRepository (List MediaFile) :=
  Media.fileList fun data _ _ => data.take 1

/-- A client that caches each request under the request itself. -/
def pictureCalls :
    Components Nat (Shared (List MediaFile) (MediaRequest -> Option Bytes)) Phase Outside
      Action :=
  attachments sampleMedia (KeyedStore.ofFunction MediaRequest Bytes) id [] fun _ => none

theorem run_pictureSent :
    exists w content, pictureCalls.system.run pictureSent = some w ∧
      w.shared.messages = [(0, content)] :=
  ⟨_, _, rfl, rfl⟩

theorem files_arrive_picture :
    exists w content args, pictureCalls.system.run pictureSent = some w ∧
      (w.memory 0).HasSent args ∧
      Gets true (some args.data)
        (Media.getFile (KeyedStore.ofFunction MediaRequest Bytes) id
          (sampleMedia.answers w.shared.media true) (MessageType.eventContent content) true
          w.shared.store).1 := by
  rcases run_pictureSent with ⟨w, content, hrun, hmessages⟩
  have hsent : (0, content) ∈ w.shared.messages := by
    rw [hmessages]
    exact List.mem_singleton_self _
  rcases files_arrive Media.tellsApart_id (fun _ => rfl) hrun hsent true true with
    ⟨args, hgiven, hfile, _⟩
  exact ⟨w, content, args, hrun, hgiven, hfile⟩

end Calls

end Attachment
end MatrixGoose
