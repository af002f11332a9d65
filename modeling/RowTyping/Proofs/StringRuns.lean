import RowTyping.Foreign.StringStore

/-! Runs of the string store. Whatever a run has made holds the text that was given for it, with
the size of that text in bytes, and a remembered length is the number of its characters. What an
action can do is said once, by a relation between the store and the outcome; the laws of a step are
read off it, and runs keep them step by step. -/

namespace RowTyping.Foreign

variable {text : String} {bytes : Int32} {n size capacity : Nat}

/-! Sizes of texts and the fields that hold them. -/

private theorem length_le_utf8ByteSize (text : String) : text.length ≤ text.utf8ByteSize := by
  refine String.push_induction text (fun text => text.length ≤ text.utf8ByteSize) ?_ ?_
  · exact Nat.zero_le _
  · intro front char ih
    rw [String.length_push, String.utf8ByteSize_push]
    exact Nat.add_le_add ih char.utf8Size_pos

private theorem Content.byteSize_eq (content : Content) :
    content.byteSize = content.value.utf8ByteSize := by
  cases content with
  | text value => rfl
  | zeros count =>
    simp only [byteSize, value]
    induction count with
    | zero => simp
    | succ count ih =>
      rw [List.replicate_succ, String.ofList_cons, String.utf8ByteSize_append,
        String.utf8ByteSize_singleton, ← ih, Nat.add_comm]
      rfl

private theorem sizeField_of_le (fits : size ≤ maxSize) : sizeField size = .ok (Int32.ofNat size) :=
  if_pos fits

private theorem sizeField_of_lt (long : maxSize < size) : sizeField size = .error (.tooLong size) :=
  if_neg (Nat.not_le.mpr long)

private theorem toInt_ofNat_of_le (fits : size ≤ maxSize) : (Int32.ofNat size).toInt = size :=
  Int32.toInt_ofNat_of_lt (Nat.lt_of_le_of_lt fits (by decide))

private theorem toInt_le_maxSize (field : Int32) : field.toInt ≤ maxSize := by
  have below := field.toInt_lt
  have top : (maxSize : Int) = 2147483647 := by decide
  omega

private theorem spelled_all (exactly : bytes.toInt = text.utf8ByteSize) :
    spelled text bytes = some text := by
  have size : bytes.toInt.toNat = text.toByteArray.size := by
    rw [exactly, Int.toNat_natCast]
    rfl
  rw [spelled, size, ByteArray.extract_zero_size, String.fromUTF8?, dif_pos text.isValidUTF8]
  rfl

/-! Single views. -/

namespace StringView

variable {view : StringView}

/-- The fields of a view tell the truth about its text. -/
structure Sound (view : StringView) : Prop where
  bytes : view.bytes.toInt = view.text.utf8ByteSize
  length : view.length = unknownLength ∨ view.length.toInt = view.text.length
  reads : spelled view.text view.bytes = some view.text

theorem Sound.fits (sound : view.Sound) : view.text.utf8ByteSize ≤ maxSize := by
  have small := toInt_le_maxSize view.bytes
  rw [sound.bytes] at small
  exact Int.ofNat_le.mp small

theorem Sound.asText (sound : view.Sound) : view.asText = view.text := by
  rw [StringView.asText, sound.reads, Option.getD_some]

def fresh (text : String) : StringView := ⟨text, Int32.ofNat text.utf8ByteSize, unknownLength⟩

@[simp] theorem fresh_text (text : String) : (fresh text).text = text := rfl

private theorem fresh_sound (fits : text.utf8ByteSize ≤ maxSize) : (fresh text).Sound where
  bytes := toInt_ofNat_of_le fits
  length := .inl rfl
  reads := spelled_all (toInt_ofNat_of_le fits)

private theorem of_of_le {content : Content} (fits : content.value.utf8ByteSize ≤ maxSize) :
    StringView.of content = .ok (fresh content.value) := by
  rw [StringView.of, content.byteSize_eq, sizeField_of_le fits]
  rfl

private theorem of_of_lt {content : Content} (long : maxSize < content.value.utf8ByteSize) :
    StringView.of content = .error (.tooLong content.value.utf8ByteSize) := by
  rw [StringView.of, content.byteSize_eq, sizeField_of_lt long]
  rfl

/-- The length is the number of characters, which nobody mistakes for an unknown one. -/
structure HasLength (view : StringView) (length : Int32) : Prop where
  exactly : length.toInt = view.text.length
  nonneg : 0 ≤ length.toInt
  le_bytes : length.toInt ≤ view.bytes.toInt
  known : length ≠ unknownLength

private theorem Sound.hasLength (sound : view.Sound) {length : Int32}
    (exactly : length.toInt = view.text.length) : view.HasLength length := by
  have counted := length_le_utf8ByteSize view.text
  have bytes := sound.bytes
  have nonneg : 0 ≤ length.toInt := by omega
  refine ⟨exactly, nonneg, by omega, ?_⟩
  rintro rfl
  exact absurd nonneg (by decide)

theorem Sound.count (sound : view.Sound) :
    ∃ length, view.HasLength length ∧ view.count = (length, { view with length }) := by
  by_cases unknown : view.length = unknownLength
  · have fits := Nat.le_trans (length_le_utf8ByteSize view.text) sound.fits
    refine ⟨_, sound.hasLength (toInt_ofNat_of_le fits), ?_⟩
    simp [StringView.count, isCounted, unknown, sound.asText]
  · have exactly := sound.length.resolve_left unknown
    refine ⟨view.length, sound.hasLength exactly, ?_⟩
    simp [StringView.count, isCounted, unknown]

private theorem Sound.remember (sound : view.Sound) {length : Int32}
    (counts : view.HasLength length) :
    ({ view with length } : StringView).Sound where
  bytes := sound.bytes
  length := .inr counts.exactly
  reads := sound.reads

end StringView

/-! Single owned strings. -/

namespace OwnedString

variable {owned : OwnedString}

/-- The fields of an owned string tell the truth about its text, and its buffer has room for it. -/
structure Sound (owned : OwnedString) : Prop where
  bytes : owned.bytes.toInt = owned.text.utf8ByteSize
  nonneg : 0 ≤ owned.bytes.toInt
  room : owned.bytes.toInt ≤ owned.capacity.toInt
  capacity : owned.capacity.toInt ≤ maxSize
  reads : spelled owned.text owned.bytes = some owned.text

theorem Sound.fits (sound : owned.Sound) : owned.text.utf8ByteSize ≤ maxSize := by
  have small := Int.le_trans sound.room sound.capacity
  rw [sound.bytes] at small
  exact Int.ofNat_le.mp small

theorem Sound.asText (sound : owned.Sound) : owned.asText = owned.text := by
  rw [OwnedString.asText, sound.reads, Option.getD_some]

def holding (text : String) (capacity : Nat) : OwnedString :=
  ⟨text, Int32.ofNat text.utf8ByteSize, Int32.ofNat capacity⟩

@[simp] theorem holding_text (text : String) (capacity : Nat) :
    (holding text capacity).text = text := rfl

private theorem holding_sound (room : text.utf8ByteSize ≤ capacity) (fits : capacity ≤ maxSize) :
    (holding text capacity).Sound := by
  have bytes : (holding text capacity).bytes.toInt = text.utf8ByteSize :=
    toInt_ofNat_of_le (Nat.le_trans room fits)
  have field : (holding text capacity).capacity.toInt = capacity := toInt_ofNat_of_le fits
  refine ⟨bytes, ?_, ?_, toInt_le_maxSize _, spelled_all bytes⟩
  · omega
  · omega

/-- The owned string as a view that nobody has counted. -/
def uncounted (owned : OwnedString) : StringView :=
  ⟨owned.text, owned.bytes, StringView.unknownLength⟩

@[simp] theorem uncounted_text (owned : OwnedString) : owned.uncounted.text = owned.text := rfl

theorem Sound.uncounted (sound : owned.Sound) : owned.uncounted.Sound :=
  ⟨sound.bytes, .inl rfl, sound.reads⟩

theorem Sound.view (sound : owned.Sound) : owned.view = .ok owned.uncounted := by
  have size : Int32.ofNat owned.text.utf8ByteSize = owned.bytes :=
    Int32.toInt_inj.mp ((toInt_ofNat_of_le sound.fits).trans sound.bytes.symm)
  have fits : (Content.text owned.text).value.utf8ByteSize ≤ maxSize := sound.fits
  rw [OwnedString.view, sound.asText, StringView.of_of_le fits, OwnedString.uncounted, ← size]
  rfl

private theorem empty_sound : empty.Sound := holding_sound (Nat.le_refl 0) (Nat.zero_le maxSize)

end OwnedString

/-- The capacity that is kept: all of it if that fits the field, and else none unused. -/
def Buffer.kept (buffer : Buffer) : Nat :=
  if buffer.capacity ≤ maxSize then buffer.capacity else buffer.shrunk

private theorem Buffer.le_kept (buffer : Buffer) :
    buffer.content.value.utf8ByteSize ≤ buffer.kept := by
  rw [← buffer.content.byteSize_eq, kept]
  split
  · exact Nat.le_max_right _ _
  · exact Nat.le_refl _

private theorem Buffer.kept_le {buffer : Buffer}
    (fits : buffer.content.value.utf8ByteSize ≤ maxSize) :
    buffer.kept ≤ maxSize := by
  rw [kept]
  split
  next small => exact small
  next => rwa [shrunk, buffer.content.byteSize_eq]

namespace OwnedString

variable {buffer : Buffer}

private theorem ofBuffer_of_le (fits : buffer.content.value.utf8ByteSize ≤ maxSize) :
    ofBuffer buffer = .ok (holding buffer.content.value buffer.kept) := by
  have capacity := sizeField_of_le (Buffer.kept_le fits)
  rw [Buffer.kept] at capacity
  rw [ofBuffer, buffer.content.byteSize_eq, sizeField_of_le fits, capacity]
  rfl

/-- Room to spare is no reason to fail. -/
theorem ofBuffer_of_lt (long : maxSize < buffer.content.value.utf8ByteSize) :
    ofBuffer buffer = .error (.tooLong buffer.content.value.utf8ByteSize) := by
  rw [ofBuffer, buffer.content.byteSize_eq, sizeField_of_lt long]
  rfl

def copy (text : String) (reserved : Nat) : OwnedString :=
  holding text (Buffer.kept { content := .text text, reserved })

@[simp] theorem copy_text (text : String) (reserved : Nat) : (copy text reserved).text = text := rfl

private theorem ofView_of_sound {view : StringView} (sound : view.Sound) (reserved : Nat) :
    ofView view reserved = .ok (copy view.text reserved) := by
  have fits : (Content.text view.text).value.utf8ByteSize ≤ maxSize := sound.fits
  rw [ofView, sound.asText]
  exact ofBuffer_of_le fits

private theorem copy_sound (fits : text.utf8ByteSize ≤ maxSize) (reserved : Nat) :
    (copy text reserved).Sound :=
  holding_sound (Buffer.le_kept { content := .text text, reserved }) (Buffer.kept_le fits)

end OwnedString

namespace StringStore

/-! The texts that a store should hold, by copying alone. -/

structure Texts where
  views : List String := []
  owned : List (Option String) := []

/-- The text, unless it is too long for a layout. -/
def fitting (text : String) : List String := if text.utf8ByteSize ≤ maxSize then [text] else []

/-- The text that an action brings from outside. -/
def Action.given? : Action → Option String
  | .createView content => some content.value
  | .createOwned buffer => some buffer.content.value
  | .createEmpty => some ""
  | _ => none

def Action.view? : Action → Option Nat
  | .inspectView number | .cloneView number | .countView number | .copyView number _ =>
    some number
  | _ => none

def Action.owned? : Action → Option Nat
  | .inspectOwned number | .viewOwned number | .borrowOwned number | .passOwned number _
  | .takeText number | .dropOwned number => some number
  | _ => none

namespace Texts

def step (texts : Texts) : Action → Texts
  | .createView content => { texts with views := texts.views ++ fitting content.value }
  | .cloneView number => { texts with views := texts.views ++ texts.views[number]?.toList }
  | .viewOwned number => { texts with views := texts.views ++ texts.owned[number]?.join.toList }
  | .createEmpty => { texts with owned := texts.owned ++ [some ""] }
  | .createOwned buffer =>
    { texts with owned := texts.owned ++ (fitting buffer.content.value).map some }
  | .copyView number _ =>
    { texts with owned := texts.owned ++ texts.views[number]?.toList.map some }
  | .takeText number | .dropOwned number => { texts with owned := texts.owned.set number none }
  | .inspectView _ | .countView _ | .inspectOwned _ | .borrowOwned _ | .passOwned _ _ => texts

def run (texts : Texts) (actions : List Action) : Texts := actions.foldl step texts

variable {texts : Texts} {action : Action}

private theorem step_of_noView (names : action.view? = some n) (missing : texts.views[n]? = none) :
    texts.step action = texts := by
  cases action <;> cases names <;> simp [step, missing]

private theorem step_of_noOwned (names : action.owned? = some n)
    (missing : texts.owned[n]?.join = none) : texts.step action = texts := by
  have unchanged : texts.owned.set n none = texts.owned := by
    by_cases within : n < texts.owned.length
    · rw [List.getElem?_eq_getElem within] at missing
      rw [← show texts.owned[n] = none from missing]
      exact List.set_getElem_self within
    · exact List.set_eq_of_length_le (Nat.not_lt.mp within)
  cases action <;> cases names <;> simp [step, missing, unchanged]

private theorem step_of_long (gives : action.given? = some text)
    (long : maxSize < text.utf8ByteSize) : texts.step action = texts := by
  have refused : fitting text = [] := if_neg (Nat.not_le.mpr long)
  cases action <;> cases gives
  · simp [step, refused]
  · exact (Nat.not_lt_zero _ long).elim
  · simp [step, refused]

end Texts

variable {store : StringStore} {action : Action} {outcome : Reply × StringStore}
variable {view : StringView} {owned : OwnedString} {texts : Texts}

/-- A store holds these texts, each in a layout that tells the truth about it. -/
structure Consistent (store : StringStore) (texts : Texts) : Prop where
  viewTexts : store.views.map (·.text) = texts.views
  ownedTexts : store.owned.map (Option.map (·.text)) = texts.owned
  views : ∀ view ∈ store.views, view.Sound
  owned : ∀ owned, some owned ∈ store.owned → owned.Sound

namespace Consistent

theorem initial : Consistent {} {} where
  viewTexts := rfl
  ownedTexts := rfl
  views _ member := nomatch member
  owned _ member := nomatch member

variable (consistent : store.Consistent texts)
include consistent

private theorem view_sound (found : store.view? n = some view) : view.Sound :=
  consistent.views view (List.mem_of_getElem? found)

private theorem owned_sound (found : store.owned? n = some owned) : owned.Sound :=
  consistent.owned owned (List.mem_of_getElem? (Option.join_eq_some_iff.mp found))

private theorem views_getElem? (n : Nat) : texts.views[n]? = (store.view? n).map (·.text) := by
  rw [← consistent.viewTexts, List.getElem?_map]
  rfl

private theorem owned_getElem? (n : Nat) :
    texts.owned[n]?.join = (store.owned? n).map (·.text) := by
  rw [← consistent.ownedTexts, List.getElem?_map, owned?]
  rcases store.owned[n]? with _ | _ | _ <;> rfl

theorem addView (sound : view.Sound) :
    (store.addView view).Consistent { texts with views := texts.views ++ [view.text] } where
  viewTexts := by simp [StringStore.addView, consistent.viewTexts]
  ownedTexts := consistent.ownedTexts
  views other member := by
    rcases List.mem_append.mp member with old | new
    · exact consistent.views other old
    · cases List.mem_singleton.mp new
      exact sound
  owned := consistent.owned

theorem addOwned (sound : owned.Sound) :
    (store.addOwned owned).Consistent
      { texts with owned := texts.owned ++ [some owned.text] } where
  viewTexts := consistent.viewTexts
  ownedTexts := by simp [StringStore.addOwned, consistent.ownedTexts]
  views := consistent.views
  owned other member := by
    rcases List.mem_append.mp member with old | new
    · exact consistent.owned other old
    · cases List.mem_singleton.mp new
      exact sound

theorem setView (found : store.view? n = some view) {changed : StringView}
    (same : changed.text = view.text) (sound : changed.Sound) :
    Consistent { store with views := store.views.set n changed } texts where
  viewTexts := by
    have held : (store.views.map (·.text))[n]? = some changed.text := by
      rw [List.getElem?_map, same]
      exact congrArg (Option.map _) found
    obtain ⟨within, exactly⟩ := List.getElem?_eq_some_iff.mp held
    rw [← consistent.viewTexts, List.map_set, ← exactly]
    exact List.set_getElem_self within
  ownedTexts := consistent.ownedTexts
  views other member := by
    rcases List.mem_or_eq_of_mem_set member with old | rfl
    · exact consistent.views other old
    · exact sound
  owned := consistent.owned

theorem giveUp (n : Nat) :
    Consistent { store with owned := store.owned.set n none }
      { texts with owned := texts.owned.set n none } where
  viewTexts := consistent.viewTexts
  ownedTexts := by
    rw [← consistent.ownedTexts]
    exact List.map_set
  views := consistent.views
  owned other member := by
    rcases List.mem_or_eq_of_mem_set member with old | gone
    · exact consistent.owned other old
    · cases gone

end Consistent

/-! What an action can do. -/

/-- The outcomes of an action. Whatever copies or views a text that is held succeeds, so only a text
from outside is ever refused. -/
inductive Effect (store : StringStore) : Action → Reply × StringStore → Prop
  | noView {action : Action} {number : Nat} (names : action.view? = some number)
      (missing : store.view? number = none) : Effect store action (.absent, store)
  | noOwned {action : Action} {number : Nat} (names : action.owned? = some number)
      (missing : store.owned? number = none) : Effect store action (.absent, store)
  | refused {action : Action} {given : String} (gives : action.given? = some given)
      (long : maxSize < given.utf8ByteSize) :
      Effect store action (.failed (.tooLong given.utf8ByteSize), store)
  | createView {content : Content} (fits : content.value.utf8ByteSize ≤ maxSize) :
      Effect store (.createView content)
        (.view (.fresh content.value), store.addView (.fresh content.value))
  | inspectView {number : Nat} {view : StringView} (found : store.view? number = some view) :
      Effect store (.inspectView number) (.view view, store)
  | cloneView {number : Nat} {view : StringView} (found : store.view? number = some view) :
      Effect store (.cloneView number) (.view view, store.addView view)
  | countView {number : Nat} {view : StringView} {length : Int32}
      (found : store.view? number = some view) (counts : view.HasLength length) :
      Effect store (.countView number) (.counted view length { view with length },
        { store with views := store.views.set number { view with length } })
  | createEmpty : Effect store .createEmpty (.owned .empty, store.addOwned .empty)
  | createOwned {buffer : Buffer} (fits : buffer.content.value.utf8ByteSize ≤ maxSize) :
      Effect store (.createOwned buffer) (.owned (.holding buffer.content.value buffer.kept),
        store.addOwned (.holding buffer.content.value buffer.kept))
  | copyView {number reserved : Nat} {view : StringView}
      (found : store.view? number = some view) :
      Effect store (.copyView number reserved)
        (.copied view (.copy view.text reserved), store.addOwned (.copy view.text reserved))
  | inspectOwned {number : Nat} {owned : OwnedString}
      (found : store.owned? number = some owned) :
      Effect store (.inspectOwned number) (.owned owned, store)
  | viewOwned {number : Nat} {owned : OwnedString} (found : store.owned? number = some owned) :
      Effect store (.viewOwned number)
        (.view owned.uncounted, store.addView owned.uncounted)
  | borrowOwned {number : Nat} {owned : OwnedString} {length : Int32}
      (found : store.owned? number = some owned)
      (counts : owned.uncounted.HasLength length) :
      Effect store (.borrowOwned number)
        (.borrowed owned owned.uncounted length { owned.uncounted with length }, store)
  | passOwned {number : Nat} {owned : OwnedString} {address : UInt64}
      (found : store.owned? number = some owned) :
      Effect store (.passOwned number address) (.argument (.ownedString address)
        (LaunchArg.ownedString address).narrow, store)
  | takeText {number : Nat} {owned : OwnedString} (found : store.owned? number = some owned) :
      Effect store (.takeText number)
        (.text owned.text, { store with owned := store.owned.set number none })
  | dropOwned {number : Nat} {owned : OwnedString} (found : store.owned? number = some owned) :
      Effect store (.dropOwned number)
        (.dropped, { store with owned := store.owned.set number none })

private theorem withView_effect {number : Nat} {use : StringView → Reply × StringStore}
    (names : action.view? = some number)
    (present : ∀ view, store.view? number = some view → Effect store action (use view)) :
    Effect store action (store.withView number use) := by
  unfold withView
  split
  next view found => exact present view found
  next missing => exact .noView names missing

private theorem withOwned_effect {number : Nat} {use : OwnedString → Reply × StringStore}
    (names : action.owned? = some number)
    (present : ∀ owned, store.owned? number = some owned → Effect store action (use owned)) :
    Effect store action (store.withOwned number use) := by
  unfold withOwned
  split
  next owned found => exact present owned found
  next missing => exact .noOwned names missing

theorem step_effect (consistent : store.Consistent texts) (action : Action) :
    Effect store action (store.step action) := by
  cases action with
  | createView content =>
    simp only [step, created]
    rcases Nat.lt_or_ge maxSize content.value.utf8ByteSize with long | fits
    · rw [StringView.of_of_lt long]
      exact .refused rfl long
    · rw [StringView.of_of_le fits]
      exact .createView fits
  | inspectView number =>
    apply withView_effect rfl
    intro view found
    exact .inspectView found
  | cloneView number =>
    apply withView_effect rfl
    intro view found
    exact .cloneView found
  | countView number =>
    apply withView_effect rfl
    intro view found
    obtain ⟨length, counts, counted⟩ := (consistent.view_sound found).count
    rw [counted]
    exact .countView found counts
  | createEmpty => exact .createEmpty
  | createOwned buffer =>
    simp only [step, created]
    rcases Nat.lt_or_ge maxSize buffer.content.value.utf8ByteSize with long | fits
    · rw [OwnedString.ofBuffer_of_lt long]
      exact .refused rfl long
    · rw [OwnedString.ofBuffer_of_le fits]
      exact .createOwned fits
  | copyView number reserved =>
    apply withView_effect rfl
    intro view found
    simp only [created, OwnedString.ofView_of_sound (consistent.view_sound found) reserved]
    exact .copyView found
  | inspectOwned number =>
    apply withOwned_effect rfl
    intro owned found
    exact .inspectOwned found
  | viewOwned number =>
    apply withOwned_effect rfl
    intro owned found
    simp only [created, (consistent.owned_sound found).view]
    exact .viewOwned found
  | borrowOwned number =>
    apply withOwned_effect rfl
    intro owned found
    have sound := consistent.owned_sound found
    obtain ⟨length, counts, counted⟩ := sound.uncounted.count
    simp only [sound.view, counted]
    exact .borrowOwned found counts
  | passOwned number address =>
    apply withOwned_effect rfl
    intro owned found
    exact .passOwned found
  | takeText number =>
    apply withOwned_effect rfl
    intro owned found
    rw [(consistent.owned_sound found).asText]
    exact .takeText found
  | dropOwned number =>
    apply withOwned_effect rfl
    intro owned found
    exact .dropOwned found

/-! What follows for a step. -/

/-- Every outcome leaves a store that holds the right texts. -/
theorem Effect.consistent (effect : Effect store action outcome)
    (consistent : store.Consistent texts) : outcome.2.Consistent (texts.step action) := by
  cases effect with
  | noView names missing =>
    rwa [Texts.step_of_noView names (by rw [consistent.views_getElem?, missing]; rfl)]
  | noOwned names missing =>
    rwa [Texts.step_of_noOwned names (by rw [consistent.owned_getElem?, missing]; rfl)]
  | refused gives long => rwa [Texts.step_of_long gives long]
  | createView fits =>
    have step := consistent.addView (StringView.fresh_sound fits)
    simpa [Texts.step, fitting, fits] using step
  | inspectView found => exact consistent
  | cloneView found =>
    have step := consistent.addView (consistent.view_sound found)
    simpa [Texts.step, consistent.views_getElem?, found] using step
  | countView found counts =>
    exact consistent.setView found rfl ((consistent.view_sound found).remember counts)
  | createEmpty => exact consistent.addOwned OwnedString.empty_sound
  | createOwned fits =>
    have sound := OwnedString.holding_sound (Buffer.le_kept _) (Buffer.kept_le fits)
    simpa [Texts.step, fitting, fits] using consistent.addOwned sound
  | @copyView _ reserved _ found =>
    have sound := OwnedString.copy_sound (consistent.view_sound found).fits reserved
    simpa [Texts.step, consistent.views_getElem?, found] using consistent.addOwned sound
  | inspectOwned found => exact consistent
  | viewOwned found =>
    have sound := (consistent.owned_sound found).uncounted
    simpa [Texts.step, consistent.owned_getElem?, found] using consistent.addView sound
  | borrowOwned found counts => exact consistent
  | passOwned found => exact consistent
  | takeText found => exact consistent.giveUp _
  | dropOwned found => exact consistent.giveUp _

/-- A creation fails for the size of the text that was given, and nothing else ever fails. -/
theorem Effect.failed_iff (effect : Effect store action outcome) (failure : LayoutError) :
    outcome.1 = .failed failure ↔ ∃ given, action.given? = some given ∧
      maxSize < given.utf8ByteSize ∧ failure = .tooLong given.utf8ByteSize := by
  constructor
  · intro failed
    cases effect with
    | refused gives long =>
      cases failed
      exact ⟨_, gives, long, rfl⟩
    | _ => cases failed
  · rintro ⟨given, gives, long, rfl⟩
    cases effect with
    | refused gives' long' =>
      cases gives.symm.trans gives'
      rfl
    | noView names missing => cases action <;> cases gives <;> cases names
    | noOwned names missing => cases action <;> cases gives <;> cases names
    | createView fits =>
      cases gives
      exact absurd long (Nat.not_lt.mpr fits)
    | createOwned fits =>
      cases gives
      exact absurd long (Nat.not_lt.mpr fits)
    | createEmpty =>
      cases gives
      exact (Nat.not_lt_zero _ long).elim
    | _ => cases gives

private theorem addView_keeps (found : store.view? n = some view) (added : StringView) :
    (store.addView added).view? n = some view := by
  obtain ⟨within, _⟩ := List.getElem?_eq_some_iff.mp found
  exact (List.getElem?_append_left within).trans found

private theorem addOwned_keeps (found : store.owned? n = some owned) (added : OwnedString) :
    (store.addOwned added).owned? n = some owned := by
  have held := Option.join_eq_some_iff.mp found
  obtain ⟨within, _⟩ := List.getElem?_eq_some_iff.mp held
  exact congrArg Option.join ((List.getElem?_append_left within).trans held)

private theorem giveUp_keeps (found : store.owned? n = some owned) {number : Nat}
    (apart : number ≠ n) :
    owned? { store with owned := store.owned.set number none } n = some owned :=
  (congrArg Option.join (List.getElem?_set_ne apart)).trans found

/-- Only counting changes a view, and only the one that is counted. -/
theorem Effect.view_kept (effect : Effect store action outcome)
    (found : store.view? n = some view) (other : action ≠ .countView n) :
    outcome.2.view? n = some view := by
  cases effect with
  | createView | cloneView | viewOwned => exact addView_keeps found _
  | @countView number =>
    have apart : number ≠ n := fun same => other (congrArg Action.countView same)
    exact (List.getElem?_set_ne apart).trans found
  | _ => exact found

/-- An owned string stays as it is until it is given up. -/
theorem Effect.owned_kept (effect : Effect store action outcome)
    (found : store.owned? n = some owned) (untaken : action ≠ .takeText n)
    (undropped : action ≠ .dropOwned n) : outcome.2.owned? n = some owned := by
  cases effect with
  | createEmpty | createOwned | copyView => exact addOwned_keeps found _
  | takeText => exact giveUp_keeps found fun same => untaken (congrArg Action.takeText same)
  | dropOwned => exact giveUp_keeps found fun same => undropped (congrArg Action.dropOwned same)
  | _ => exact found

/-- What the actions on strings do, one law for each. -/
structure StepLaws (store : StringStore) (texts : Texts) (action : Action)
    (outcome : Reply × StringStore) : Prop where
  failed_iff : ∀ failure, outcome.1 = .failed failure ↔ ∃ given, action.given? = some given ∧
    maxSize < given.utf8ByteSize ∧ failure = .tooLong given.utf8ByteSize
  view_kept : ∀ n view, store.view? n = some view → action ≠ .countView n →
    outcome.2.view? n = some view
  owned_kept : ∀ n owned, store.owned? n = some owned → action ≠ .takeText n →
    action ≠ .dropOwned n → outcome.2.owned? n = some owned
  counted : ∀ n view, action = .countView n → store.view? n = some view →
    ∃ length, view.HasLength length ∧ outcome.1 = .counted view length { view with length } ∧
      outcome.2.view? n = some { view with length }
  cloned : ∀ n view, action = .cloneView n → store.view? n = some view →
    outcome.1 = .view view ∧ outcome.2.view? store.views.length = some view
  copied : ∀ n reserved view, action = .copyView n reserved → store.view? n = some view →
    ∃ owned, owned.text = view.text ∧ outcome.1 = .copied view owned ∧
      outcome.2.owned? store.owned.length = some owned
  /-- A buffer is taken over with all its room, or without any if that is too much. -/
  built : ∀ buffer, action = .createOwned buffer → buffer.content.value.utf8ByteSize ≤ maxSize →
    ∃ owned : OwnedString, owned.text = buffer.content.value ∧
      owned.capacity.toInt = buffer.kept ∧ outcome.1 = .owned owned ∧
      outcome.2.owned? store.owned.length = some owned
  viewed : ∀ n owned, action = .viewOwned n → store.owned? n = some owned →
    outcome.1 = .view owned.uncounted ∧
      outcome.2.view? store.views.length = some owned.uncounted
  borrowed : ∀ n owned, action = .borrowOwned n → store.owned? n = some owned →
    ∃ length, owned.uncounted.HasLength length ∧
      outcome.1 = .borrowed owned owned.uncounted length { owned.uncounted with length }
  /-- A string that is given up answers with the text that was given for it. -/
  taken : ∀ n text, action = .takeText n → texts.owned[n]?.join = some text →
    outcome.1 = .text text ∧ outcome.2.owned? n = none

private theorem addView_last (store : StringStore) (view : StringView) :
    (store.addView view).view? store.views.length = some view :=
  List.getElem?_concat_length

private theorem addOwned_last (store : StringStore) (owned : OwnedString) :
    (store.addOwned owned).owned? store.owned.length = some owned :=
  congrArg Option.join List.getElem?_concat_length

theorem step_laws (consistent : store.Consistent texts) (action : Action) :
    StepLaws store texts action (store.step action) where
  failed_iff := (step_effect consistent action).failed_iff
  view_kept _ _ := (step_effect consistent action).view_kept
  owned_kept _ _ := (step_effect consistent action).owned_kept
  counted n view same found := by
    obtain ⟨length, counts, counted⟩ := (consistent.view_sound found).count
    obtain ⟨within, _⟩ := List.getElem?_eq_some_iff.mp found
    simp only [same, step, withView, found, counted]
    exact ⟨length, counts, rfl, List.getElem?_set_self within⟩
  cloned n view same found := by
    simp only [same, step, withView, found, true_and]
    exact addView_last store view
  copied n reserved view same found := by
    have copies := OwnedString.ofView_of_sound (consistent.view_sound found) reserved
    simp only [same, step, withView, found, created, copies]
    exact ⟨_, OwnedString.copy_text _ _, rfl, addOwned_last store _⟩
  built buffer same fits := by
    simp only [same, step, created, OwnedString.ofBuffer_of_le fits]
    exact ⟨_, OwnedString.holding_text _ _, toInt_ofNat_of_le (Buffer.kept_le fits), rfl,
      addOwned_last store _⟩
  viewed n owned same found := by
    have viewed := (consistent.owned_sound found).view
    simp only [same, step, withOwned, found, created, viewed, true_and]
    exact addView_last store _
  borrowed n owned same found := by
    have sound := consistent.owned_sound found
    obtain ⟨length, counts, counted⟩ := sound.uncounted.count
    simp only [same, step, withOwned, found, sound.view, counted]
    exact ⟨length, counts, rfl⟩
  taken n text same held := by
    rw [consistent.owned_getElem?] at held
    obtain ⟨owned, found, rfl⟩ := Option.map_eq_some_iff.mp held
    have held := Option.join_eq_some_iff.mp found
    obtain ⟨within, _⟩ := List.getElem?_eq_some_iff.mp held
    simp only [same, step, withOwned, found, (consistent.owned_sound found).asText, true_and]
    exact congrArg Option.join (List.getElem?_set_self within)

/-! Whole runs. -/

theorem run_append (store : StringStore) (before after : List Action) :
    store.run (before ++ after) =
      ((store.run before).1 ++ ((store.run before).2.run after).1,
        ((store.run before).2.run after).2) := by
  induction before generalizing store with
  | nil => rfl
  | cons action rest ih => simp only [List.cons_append, run, ih]

private theorem run_length (store : StringStore) (actions : List Action) :
    (store.run actions).1.length = actions.length := by
  induction actions generalizing store with
  | nil => rfl
  | cons action rest ih => simp only [run, List.length_cons, ih]

private theorem run_getElem? (store : StringStore) (before after : List Action) (action : Action) :
    (store.run (before ++ action :: after)).1[before.length]? =
      some ((store.run before).2.step action).1 := by
  rw [run_append, ← run_length store before]
  exact List.getElem?_append_right (Nat.le_refl _) |>.trans (by simp [run])

theorem Consistent.run (consistent : store.Consistent texts) (actions : List Action) :
    (store.run actions).2.Consistent (texts.run actions) := by
  induction actions generalizing store texts with
  | nil => exact consistent
  | cons action rest ih => exact ih ((step_effect consistent action).consistent consistent)

/-- After every run, each layout holds the text that was given for it and tells the truth about its
size, room and length; and whatever action comes next obeys the laws of a step. -/
theorem run_lawful (before after : List Action) (action : Action) :
    Consistent (run {} before).2 (Texts.run {} before) ∧
      ∃ reply, (run {} (before ++ action :: after)).1[before.length]? = some reply ∧
        StepLaws (run {} before).2 (Texts.run {} before) action
          (reply, (run {} (before ++ [action])).2) := by
  have consistent := Consistent.initial.run before
  refine ⟨consistent, _, run_getElem? {} before after action, ?_⟩
  have next : (run {} (before ++ [action])).2 = ((run {} before).2.step action).2 := by
    rw [run_append]
    rfl
  rw [next]
  exact step_laws consistent action

-- A clone remembers the length that its source had counted, and a view of a copy starts afresh.
example :
    (run {} [.createView (.text "héllo"), .countView 0, .cloneView 0, .copyView 1,
      .viewOwned 0]).2.views.map (fun view => (view.bytes, view.length)) =
      [(6, 5), (6, 5), (6, -1)] := by
  decide +kernel

end StringStore

end RowTyping.Foreign
