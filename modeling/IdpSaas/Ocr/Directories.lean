import IdpSaas.Ocr.Workspace
import Mathlib.Data.List.Nodup

/-!
Who owns the temporary directories of the OCR service. Over any interleaving of its
handlers, calls and removals, no directory has two owners and none is left behind, and a
scan is answered once, from the bytes that its own request has uploaded.
-/

namespace IdpSaas
namespace Ocr
open Machine

namespace Workspace
variable {host : Host} {w : Workspace}

theorem uses_congr {w w' : Workspace} {i : Nat} (handlers : w'.process.handlers i = w.process.handlers i)
    (locals : w'.locals i = w.locals i) (dir : String) : w'.Uses i dir ↔ w.Uses i dir := by
  rw [Uses, Uses, handlers, locals]

theorem not_uses {i : Nat} (idle : ∀ pc, w.process.handlers i = some pc → pc.working = false)
    (dir : String) : ¬w.Uses i dir := by
  rintro ⟨pc, l, p, waits, working, -⟩
  rw [idle pc waits] at working
  cases working

theorem uses_iff {i : Nat} {pc : HandlerPc} {l : Locals} {p : Place}
    (waits : w.process.handlers i = some pc) (working : pc.working = true)
    (own : w.locals i = some l) (place : l.place = some p) (dir : String) :
    w.Uses i dir ↔ p.tmpDir = dir := by
  constructor
  · rintro ⟨pc', l', p', -, -, own', place', same⟩
    obtain rfl : l' = l := Option.some.inj (own'.symm.trans own)
    obtain rfl : p' = p := Option.some.inj (place'.symm.trans place)
    exact same
  · exact fun same => ⟨pc, l, p, waits, working, own, place, same⟩

/-- A directory in use is on the disk. -/
theorem Sound.uses_there (sound : w.Sound host) {id : Nat} {dir : String} (uses : w.Uses id dir) :
    w.disk dir ≠ none := by
  obtain ⟨pc, l, p, waits, working, own, place, rfl⟩ := uses
  obtain ⟨l', p', files, own', place', there, -⟩ := sound.ready id pc waits working
  obtain rfl : l' = l := Option.some.inj (own'.symm.trans own)
  obtain rfl : p' = p := Option.some.inj (place'.symm.trans place)
  rw [there]
  exact Option.some_ne_none _

/-- A change to one handler and to what no other handler uses: what is left to show for it. -/
theorem Sound.change (sound : w.Sound host) {w' : Workspace} (id : Nat)
    (others : ∀ i, i ≠ id → w'.process.handlers i = w.process.handlers i ∧
      w'.locals i = w.locals i)
    (disk : ∀ i dir, i ≠ id → w.Uses i dir → w'.disk dir = w.disk dir)
    (ready : ∀ pc, w'.process.handlers id = some pc → pc.working = true → ∃ l p files,
      w'.locals id = some l ∧ l.place = some p ∧ w'.disk p.tmpDir = some files ∧
        Ready host l.buffer p files pc)
    (own : ∀ dir, w'.Uses id dir → (∀ i, i ≠ id → ¬w.Uses i dir) ∧ dir ∉ w'.removals)
    (removals : ∀ i dir, i ≠ id → w.Uses i dir → dir ∉ w'.removals)
    (once : w'.removals.Nodup) (there : ∀ dir ∈ w'.removals, w'.disk dir ≠ none) :
    w'.Sound host := by
  have same : ∀ i dir, i ≠ id → (w'.Uses i dir ↔ w.Uses i dir) := fun i dir other =>
    uses_congr (others i other).1 (others i other).2 dir
  refine ⟨fun i pc waits working => ?_, fun i j dir hi hj => ?_, fun i dir uses => ?_, once, there⟩
  · by_cases other : i = id
    · subst other
      exact ready pc waits working
    · rw [(others i other).1] at waits
      rw [(others i other).2]
      obtain ⟨l, p, files, loc, place, onDisk, fine⟩ := sound.ready i pc waits working
      refine ⟨l, p, files, loc, place, ?_, fine⟩
      rw [disk i p.tmpDir other ((uses_iff waits working loc place _).mpr rfl), onDisk]
  · by_cases hi' : i = id
    · by_cases hj' : j = id
      · rw [hi', hj']
      · exact absurd ((same j dir hj').mp hj) ((own dir (hi' ▸ hi)).1 j hj')
    · by_cases hj' : j = id
      · exact absurd ((same i dir hi').mp hi) ((own dir (hj' ▸ hj)).1 i hi')
      · exact sound.apart i j dir ((same i dir hi').mp hi) ((same j dir hj').mp hj)
  · by_cases other : i = id
    · exact (own dir (other ▸ uses)).2
    · exact removals i dir other ((same i dir other).mp uses)

theorem at_others (s : State) (id : Nat) (pc : HandlerPc) {i : Nat} (other : i ≠ id) :
    (s.at id pc).handlers i = s.handlers i := at_other (Ne.symm other) pc

/-- The handler of a request that has no directory changes. -/
theorem Sound.idle_change (sound : w.Sound host) {id : Nat} {pc : HandlerPc}
    (idle : pc.working = false) (locals : Nat → Option Locals)
    (others : ∀ i, i ≠ id → locals i = w.locals i) :
    Sound host { w with process := w.process.at id pc, locals := locals } := by
  have own : ∀ pc', (w.process.at id pc).handlers id = some pc' → pc'.working = false := by
    intro pc' waits
    rw [at_own] at waits
    exact Option.some.inj waits ▸ idle
  refine sound.change id (fun i other => ⟨at_others _ id pc other, others i other⟩)
    (fun _ _ _ _ => rfl) (fun pc' waits working => ?_) (fun dir uses => ?_)
    (fun i dir _ uses => sound.removing i dir uses) sound.once sound.there
  · rw [own pc' waits] at working
    cases working
  · exact absurd uses (not_uses own dir)

theorem Sound.made (sound : w.Sound host) {id : Nat} (now : Nat) {l : Locals} {p : Place}
    (free : w.disk p.tmpDir = none) :
    Sound host
      { w with
        process := w.process.at id (.writeFile now)
        locals := Function.update w.locals id (some { l with place := some p })
        disk := Function.update w.disk p.tmpDir (some Directory.empty) } := by
  have fresh : ∀ i dir, w.Uses i dir → dir ≠ p.tmpDir := by
    rintro i dir uses rfl
    exact sound.uses_there uses free
  have stays : ∀ dir ∈ w.removals, dir ≠ p.tmpDir := by
    rintro dir mem rfl
    exact sound.there _ mem free
  refine sound.change id
    (fun i other => ⟨at_others _ id _ other, Function.update_of_ne other _ _⟩)
    (fun i dir _ uses => Function.update_of_ne (fresh i dir uses) _ _)
    (fun pc waits _ => ?_) (fun dir uses => ?_) (fun i dir _ uses => sound.removing i dir uses)
    sound.once (fun dir mem => ?_)
  · have at_id : (w.process.at id (.writeFile now)).handlers id = some (.writeFile now) := at_own _
    obtain rfl := Option.some.inj (at_id.symm.trans waits)
    exact ⟨_, p, .empty, Function.update_self .., rfl, Function.update_self .., rfl⟩
  · obtain rfl := (uses_iff (at_own _) rfl (Function.update_self ..) rfl dir).mp uses
    exact ⟨fun i _ there => fresh i _ there rfl, fun mem => stays _ mem rfl⟩
  · dsimp only
    rw [Function.update_of_ne (stays dir mem)]
    exact sound.there dir mem

theorem Sound.advanced (sound : w.Sound host) {id : Nat} {l : Locals} {p : Place}
    {pc pc' : HandlerPc} {files : Directory} (waits : w.process.handlers id = some pc)
    (working : pc.working = true) (own : w.locals id = some l) (place : l.place = some p)
    (ready : Ready host l.buffer p files pc') :
    Sound host
      { w with
        process := w.process.at id pc'
        disk := Function.update w.disk p.tmpDir (some files) } := by
  have mine : w.Uses id p.tmpDir := (uses_iff waits working own place _).mpr rfl
  have apart : ∀ i dir, i ≠ id → w.Uses i dir → dir ≠ p.tmpDir := by
    rintro i dir other uses rfl
    exact other (sound.apart i id _ uses mine)
  refine sound.change id (fun i other => ⟨at_others _ id _ other, rfl⟩)
    (fun i dir other uses => Function.update_of_ne (apart i dir other uses) _ _)
    (fun pc'' waits' _ => ?_) (fun dir uses => ?_) (fun i dir _ uses => sound.removing i dir uses)
    sound.once (fun dir mem => ?_)
  · have at_id : (w.process.at id pc').handlers id = some pc' := at_own pc'
    obtain rfl := Option.some.inj (at_id.symm.trans waits')
    exact ⟨l, p, files, own, place, Function.update_self .., ready⟩
  · obtain ⟨_, l', p', _, _, own', place', rfl⟩ := uses
    obtain rfl : l' = l := Option.some.inj (own'.symm.trans own)
    obtain rfl : p' = p := Option.some.inj (place'.symm.trans place)
    exact ⟨fun i other uses => apart i _ other uses rfl, sound.removing id _ mine⟩
  · dsimp only
    rw [Function.update_of_ne]
    · exact sound.there dir mem
    · rintro rfl
      exact sound.removing id _ mine mem

theorem Sound.responded (sound : w.Sound host) {id : Nat} {l : Locals} {p : Place}
    {pc : HandlerPc} (files : Directory) (waits : w.process.handlers id = some pc)
    (working : pc.working = true) (own : w.locals id = some l) (place : l.place = some p) :
    Sound host
      { w with
        process := w.process.at id .ended
        disk := Function.update w.disk p.tmpDir (some files)
        removals := w.removals ++ [p.tmpDir] } := by
  have mine : w.Uses id p.tmpDir := (uses_iff waits working own place _).mpr rfl
  have apart : ∀ i dir, i ≠ id → w.Uses i dir → dir ≠ p.tmpDir := by
    rintro i dir other uses rfl
    exact other (sound.apart i id _ uses mine)
  have ended : ∀ pc, (w.process.at id .ended).handlers id = some pc → pc.working = false := by
    intro pc waits
    rw [at_own] at waits
    exact Option.some.inj waits ▸ rfl
  refine sound.change id (fun i other => ⟨at_others _ id _ other, rfl⟩)
    (fun i dir other uses => Function.update_of_ne (apart i dir other uses) _ _)
    (fun pc waits working => ?_) (fun dir uses => absurd uses (not_uses ended dir))
    (fun i dir other uses mem => ?_) ?_ (fun dir mem => ?_)
  · rw [ended pc waits] at working
    cases working
  · cases List.mem_append.mp mem with
    | inl old => exact sound.removing i dir uses old
    | inr new => exact apart i dir other uses (List.mem_singleton.mp new)
  · exact List.nodup_append_comm.mp (List.nodup_cons.mpr ⟨sound.removing id _ mine, sound.once⟩)
  · dsimp only
    by_cases same : dir = p.tmpDir
    · rw [same, Function.update_self]
      exact Option.some_ne_none _
    · rw [Function.update_of_ne same]
      cases List.mem_append.mp mem with
      | inl old => exact sound.there dir old
      | inr new => exact absurd (List.mem_singleton.mp new) same

theorem Sound.removed (sound : w.Sound host) {dir : String} (left : Option Directory)
    (mem : dir ∈ w.removals) :
    Sound host
      { w with disk := Function.update w.disk dir left, removals := w.removals.erase dir } where
  ready id pc waits working := by
    obtain ⟨l, p, files, own, place, there, ready⟩ := sound.ready id pc waits working
    have mine : w.Uses id p.tmpDir := (uses_iff waits working own place _).mpr rfl
    refine ⟨l, p, files, own, place, ?_, ready⟩
    dsimp only
    rw [Function.update_of_ne, there]
    rintro rfl
    exact sound.removing id _ mine mem
  apart := sound.apart
  removing id dir' uses mem' := sound.removing id dir' uses (List.mem_of_mem_erase mem')
  once := sound.once.erase dir
  there dir' mem' := by
    obtain ⟨other, old⟩ := sound.once.mem_erase_iff.mp mem'
    dsimp only
    rw [Function.update_of_ne other]
    exact sound.there dir' old

theorem Sound.init (host : Host) (disk : Disk) : (Workspace.init disk).Sound host where
  ready _ _ waits := nomatch waits
  apart _ _ _ uses := absurd uses (not_uses (fun _ waits => by cases waits) _)
  removing _ _ _ := List.not_mem_nil
  once := List.nodup_nil
  there _ mem := nomatch mem

theorem Sound.preserved (sound : w.Sound host) {e : Work} {w' : Workspace}
    {answer : Option (Nat × Response)} (move : w.Move host e w' answer) : w'.Sound host := by
  cases move with
  | idle e known => exact sound
  | refused id upload response up new fits =>
      exact sound.idle_change rfl w.locals fun _ _ => rfl
  | received id buffer up new =>
      exact sound.idle_change rfl _ fun i other => Function.update_of_ne other _ _
  | down id now outcome =>
      exact ⟨sound.ready, sound.apart, sound.removing, sound.once, sound.there⟩
  | made id now outcome l p waits own free => exact sound.made now free
  | advanced id now outcome l p pc pc' files waits working own place ready =>
      exact sound.advanced waits working own place ready
  | responded id now outcome l p pc files response waits working own place fits =>
      exact sound.responded files waits working own place
  | removed dir left mem => exact sound.removed left mem


section At
variable {s : State} {id : Nat} {pc : HandlerPc} {locals : Nat → Option Locals} (disk : Disk)
  (removals : List String)

theorem uses_at_other {i : Nat} (other : i ≠ id) (same : locals i = w.locals i) (dir : String) :
    Uses ⟨w.process.at id pc, locals, disk, removals⟩ i dir ↔ w.Uses i dir :=
  uses_congr (at_others _ id pc other) same dir

theorem uses_at_own {l : Locals} {p : Place} (working : pc.working = true)
    (own : locals id = some l) (place : l.place = some p) (dir : String) :
    Uses ⟨s.at id pc, locals, disk, removals⟩ id dir ↔ p.tmpDir = dir :=
  uses_iff (at_own pc) working own place dir

theorem not_uses_at (idle : pc.working = false) (dir : String) :
    ¬Uses ⟨s.at id pc, locals, disk, removals⟩ id dir := by
  refine not_uses (fun pc' waits => ?_) dir
  rw [show pc' = pc from Option.some.inj (waits.symm.trans (at_own pc))]
  exact idle

end At

/-- The directory is in the hands of a handler or of a removal. -/
def Held (w : Workspace) (dir : String) : Prop := (∃ id, w.Uses id dir) ∨ dir ∈ w.removals

/-- How directories change hands: one that is taken is new, one that is let go is gone
unless its removal failed, and no other is touched. -/
structure Handover (w : Workspace) (e : Work) (w' : Workspace) (dir : String) : Prop where
  taken : w'.Held dir → w.Held dir ∨ w.disk dir = none
  released : w.Held dir → w'.Held dir ∨ w'.disk dir = none ∨ ∃ left, e = .removed dir (some left)
  touched : w'.disk dir ≠ w.disk dir → w.Held dir ∨ w'.Held dir

theorem Handover.of_same {e : Work} {w' : Workspace} {dir : String}
    (held : w'.Held dir ↔ w.Held dir) (touched : w'.disk dir ≠ w.disk dir → w.Held dir) :
    Handover w e w' dir :=
  ⟨fun h => Or.inl (held.mp h), fun h => Or.inl (held.mpr h), fun h => Or.inl (touched h)⟩

/-- Handlers without a directory come and go. -/
theorem held_idle {id : Nat} {pc : HandlerPc} (new : w.process.handlers id = none)
    (idle : pc.working = false) {locals : Nat → Option Locals}
    (others : ∀ i, i ≠ id → locals i = w.locals i) (dir : String) :
    Held { w with process := w.process.at id pc, locals := locals } dir ↔ w.Held dir := by
  refine or_congr (exists_congr fun i => ?_) Iff.rfl
  by_cases own : i = id
  · subst own
    refine iff_of_false (not_uses_at _ _ idle dir) (not_uses (fun pc' waits => ?_) dir)
    rw [new] at waits
    cases waits
  · exact uses_at_other _ _ own (others i own) dir

/-- Only the directory that is written to changes. -/
theorem eq_of_touched {disk : Disk} {written dir : String} {files : Option Directory}
    (changed : Function.update disk written files dir ≠ disk dir) : dir = written :=
  not_imp_comm.mp (fun other => Function.update_of_ne other _ _) changed

theorem Move.handover {e : Work} {w' : Workspace} {answer : Option (Nat × Response)}
    (move : w.Move host e w' answer) (dir : String) : Handover w e w' dir := by
  cases move with
  | idle e known => exact .of_same Iff.rfl fun h => absurd rfl h
  | refused id upload response up new fits =>
      exact .of_same (held_idle new rfl (fun _ _ => rfl) dir) fun h => absurd rfl h
  | received id buffer up new =>
      exact .of_same (held_idle new rfl (fun i other => Function.update_of_ne other _ _) dir)
        fun h => absurd rfl h
  | down id now outcome => exact .of_same Iff.rfl fun h => absurd rfl h
  | made id now outcome l p waits own free =>
      have others : ∀ i, i ≠ id →
          Function.update w.locals id (some { l with place := some p }) i = w.locals i :=
        fun i other => Function.update_of_ne other _ _
      refine ⟨fun held => ?_, fun held => ?_, fun changed => Or.inr (Or.inl ⟨id, ?_⟩)⟩
      · rcases held with ⟨i, uses⟩ | mem
        · by_cases other : i = id
          · subst other
            obtain rfl := (uses_at_own _ _ rfl (Function.update_self ..) rfl dir).mp uses
            exact Or.inr free
          · exact Or.inl (Or.inl ⟨i, (uses_at_other _ _ other (others i other) dir).mp uses⟩)
        · exact Or.inl (Or.inr mem)
      · rcases held with ⟨i, uses⟩ | mem
        · refine Or.inl (Or.inl ⟨i, (uses_at_other _ _ ?_ (others i ?_) dir).mpr uses⟩)
          all_goals rintro rfl
          all_goals exact not_uses (fun pc h => Option.some.inj (waits.symm.trans h) ▸ rfl) dir uses
        · exact Or.inl (Or.inr mem)
      · exact (uses_at_own _ _ rfl (Function.update_self ..) rfl dir).mpr (eq_of_touched changed).symm
  | advanced id now outcome l p pc pc' files waits working own place ready =>
      have mine := uses_iff waits working own place
      refine .of_same (or_congr (exists_congr fun i => ?_) Iff.rfl) fun changed => ?_
      · by_cases other : i = id
        · subst other
          exact (uses_at_own _ _ ready.working own place dir).trans (mine dir).symm
        · exact uses_at_other _ _ other rfl dir
      · exact Or.inl ⟨id, (mine dir).mpr (eq_of_touched changed).symm⟩
  | responded id now outcome l p pc files response waits working own place fits =>
      have mine := uses_iff waits working own place
      refine .of_same ⟨fun held => ?_, fun held => ?_⟩ fun changed => ?_
      · rcases held with ⟨i, uses⟩ | mem
        · by_cases other : i = id
          · subst other
            exact absurd uses (not_uses_at _ _ rfl dir)
          · exact Or.inl ⟨i, (uses_at_other _ _ other rfl dir).mp uses⟩
        · cases List.mem_append.mp mem with
          | inl old => exact Or.inr old
          | inr new => exact Or.inl ⟨id, (mine dir).mpr (List.mem_singleton.mp new).symm⟩
      · rcases held with ⟨i, uses⟩ | mem
        · by_cases other : i = id
          · subst other
            obtain rfl := (mine dir).mp uses
            exact Or.inr (List.mem_append_right _ (List.mem_singleton.mpr rfl))
          · exact Or.inl ⟨i, (uses_at_other _ _ other rfl dir).mpr uses⟩
        · exact Or.inr (List.mem_append_left _ mem)
      · exact Or.inl ⟨id, (mine dir).mpr (eq_of_touched changed).symm⟩
  | removed dir' left mem =>
      refine ⟨fun held => ?_, fun held => ?_, fun changed => Or.inl (Or.inr ?_)⟩
      · exact Or.inl (held.imp id List.mem_of_mem_erase)
      · rcases held with uses | there
        · exact Or.inl (Or.inl uses)
        · by_cases same : dir = dir'
          · subst same
            cases left with
            | none => exact Or.inr (Or.inl (Function.update_self ..))
            | some files => exact Or.inr (Or.inr ⟨files, rfl⟩)
          · exact Or.inl (Or.inr ((List.mem_erase_of_ne same).mpr there))
      · rwa [eq_of_touched changed]

theorem sound_run (host : Host) (disk : Disk) (es : List Work) :
    (run (step host) (.init disk) es).Sound host :=
  run_invariant (step host) (fun _ e sound _ => sound.preserved (step_move sound e))
    (Sound.init host disk) (along_true (step host) _ es)

/-- What the service has changed on the disk it was started with. -/
structure Accounted (disk : Disk) (es : List Work) (w : Workspace) : Prop where
  own : ∀ dir, w.Held dir → disk dir = none
  changed : ∀ dir, w.disk dir ≠ disk dir →
    disk dir = none ∧ (w.Held dir ∨ ∃ left, .removed dir (some left) ∈ es)

theorem Accounted.step {disk : Disk} {es : List Work} {e : Work} {w' : Workspace}
    (h : Accounted disk es w) (handover : ∀ dir, Handover w e w' dir) :
    Accounted disk (es ++ [e]) w' := by
  have own : ∀ dir, w'.Held dir → disk dir = none := by
    intro dir held
    cases (handover dir).taken held with
    | inl before => exact h.own dir before
    | inr free =>
        by_contra foreign
        exact foreign (h.changed dir fun same => foreign (same ▸ free)).1
  have released : ∀ dir, w.Held dir → w'.disk dir ≠ disk dir →
      w'.Held dir ∨ ∃ left, .removed dir (some left) ∈ es ++ [e] := by
    intro dir held differs
    rcases (handover dir).released held with still | gone | ⟨left, rfl⟩
    · exact Or.inl still
    · exact absurd (gone.trans (h.own dir held).symm) differs
    · exact Or.inr ⟨left, List.mem_append_right _ (List.mem_singleton.mpr rfl)⟩
  refine ⟨own, fun dir differs => ?_⟩
  by_cases same : w.disk dir = disk dir
  · rw [← same] at differs
    cases (handover dir).touched differs with
    | inl held => exact ⟨h.own dir held, released dir held (same ▸ differs)⟩
    | inr held => exact ⟨own dir held, Or.inl held⟩
  · obtain ⟨foreign, held | ⟨left, failed⟩⟩ := h.changed dir same
    · exact ⟨foreign, released dir held differs⟩
    · exact ⟨foreign, Or.inr ⟨left, List.mem_append_left _ failed⟩⟩

/-- What a request has uploaded, when it arrived. -/
def arrived (id : Nat) (es : List Work) : Option Upload :=
  es.findSome? fun e => match e with
    | .request i upload => if i = id then some upload else none
    | .settle _ _ _ | .removed _ _ => none

def responsesTo (id : Nat) (given : List (Work × Nat × Response)) : List Response :=
  given.filterMap fun a => if a.2.1 = id then some a.2.2 else none

/-- Who has been answered, and with what. -/
structure Served (host : Host) (es : List Work) (given : List (Work × Nat × Response))
    (w : Workspace) : Prop where
  new : ∀ id, w.process.up = true → w.process.handlers id = none → arrived id es = none
  upload : ∀ id l, w.locals id = some l → arrived id es = some (.file l.buffer)
  silent : ∀ id, w.process.handlers id ≠ some .ended → responsesTo id given = []
  answered : ∀ id, w.process.handlers id = some .ended → ∃ upload response,
    arrived id es = some upload ∧ responsesTo id given = [response] ∧ Fits host upload response

theorem arrived_concat (id : Nat) (es : List Work) (e : Work) :
    arrived id (es ++ [e]) = (arrived id es).or (arrived id [e]) := by
  rw [arrived, List.findSome?_append]
  rfl

theorem arrived_known {id : Nat} {es : List Work} {upload : Upload}
    (h : arrived id es = some upload) (e : Work) : arrived id (es ++ [e]) = some upload := by
  rw [arrived_concat, h]
  rfl

theorem responsesTo_concat (id : Nat) (given : List (Work × Nat × Response)) (e : Work)
    (answer : Option (Nat × Response)) :
    responsesTo id (given ++ (answer.map (Prod.mk e)).toList) =
      responsesTo id given ++ (answer.filter fun a => a.1 = id).toList.map Prod.snd := by
  rw [responsesTo, List.filterMap_append]
  cases answer with
  | none => rfl
  | some a => by_cases own : a.1 = id <;> simp [own, responsesTo, Option.filter]

section Served
variable {es : List Work} {given : List (Work × Nat × Response)} {e : Work}
  {answer : Option (Nat × Response)}

/-- Nothing happens to any handler, and no request arrives that could be taken. -/
theorem Served.idle {w' : Workspace} (h : Served host es given w)
    (handlers : w'.process.handlers = w.process.handlers) (locals : w'.locals = w.locals)
    (none : ∀ id, w'.process.up = true → w.process.handlers id = none →
      w.process.up = true ∧ arrived id [e] = none) :
    Served host (es ++ [e]) given w' where
  new id up new := by
    rw [handlers] at new
    obtain ⟨up, other⟩ := none id up new
    rw [arrived_concat, h.new id up new, other]
    rfl
  upload id l own := arrived_known (h.upload id l (locals ▸ own)) e
  silent id busy := h.silent id (handlers ▸ busy)
  answered id ended := by
    obtain ⟨upload, response, arrived, answered, fits⟩ := h.answered id (handlers ▸ ended)
    exact ⟨upload, response, arrived_known arrived e, answered, fits⟩

/-- One handler goes on, and responds if it ends. -/
theorem Served.at (h : Served host es given w) {id : Nat} {pc : HandlerPc}
    {locals : Nat → Option Locals} {disk : Disk} {removals : List String}
    (busy : w.process.handlers id ≠ some .ended)
    (others : ∀ i, i ≠ id → locals i = w.locals i ∧ arrived i [e] = none)
    (upload : ∀ l, locals id = some l → arrived id (es ++ [e]) = some (.file l.buffer))
    (answers : pc ≠ .ended ∧ answer = none ∨ pc = .ended ∧ ∃ upload response,
      arrived id (es ++ [e]) = some upload ∧ answer = some (id, response) ∧
        Fits host upload response) :
    Served host (es ++ [e]) (given ++ (answer.map (Prod.mk e)).toList)
      ⟨w.process.at id pc, locals, disk, removals⟩ := by
  have elsewhere : ∀ i, i ≠ id → answer.filter (fun a => a.1 = i) = none := by
    intro i other
    rcases answers with ⟨_, rfl⟩ | ⟨_, _, response, _, rfl, _⟩
    · rfl
    · exact if_neg (by simpa using other.symm)
  have at_id : (w.process.at id pc).handlers id = some pc := at_own pc
  refine ⟨fun i up new => ?_, fun i l own => ?_, fun i silent => ?_, fun i ended => ?_⟩
  · by_cases own : i = id
    · subst own
      exact absurd (at_id.symm.trans new) (Option.some_ne_none _)
    · rw [at_others _ id pc own] at new
      rw [arrived_concat, h.new i up new, (others i own).2]
      rfl
  · by_cases own' : i = id
    · subst own'
      exact upload l own
    · exact arrived_known (h.upload i l ((others i own').1.symm.trans own)) e
  · rw [responsesTo_concat]
    by_cases own : i = id
    · subst own
      rw [h.silent i busy]
      rcases answers with ⟨_, rfl⟩ | ⟨rfl, _⟩
      · rfl
      · exact absurd at_id silent
    · rw [at_others _ id pc own] at silent
      rw [h.silent i silent, elsewhere i own]
      rfl
  · rw [responsesTo_concat]
    by_cases own : i = id
    · subst own
      rcases answers with ⟨running, _⟩ | ⟨_, upload, response, arrives, rfl, fits⟩
      · exact absurd (Option.some.inj (at_id.symm.trans ended)) running
      · refine ⟨upload, response, arrives, ?_, fits⟩
        rw [h.silent i busy]
        simp [Option.filter]
    · rw [at_others _ id pc own] at ended
      obtain ⟨upload, response, arrives, answered, fits⟩ := h.answered i ended
      refine ⟨upload, response, arrived_known arrives e, ?_, fits⟩
      rw [answered, elsewhere i own]
      rfl

theorem arrived_request {id i : Nat} (other : i ≠ id) (upload : Upload) :
    arrived i [.request id upload] = none := by
  simp [arrived, other.symm]

theorem arrived_own (id : Nat) (upload : Upload) :
    arrived id [.request id upload] = some upload := by simp [arrived]

theorem Served.step {w' : Workspace} (h : Served host es given w)
    (move : w.Move host e w' answer) :
    Served host (es ++ [e]) (given ++ (answer.map (Prod.mk e)).toList) w' := by
  have arrives : ∀ {id : Nat} {upload : Upload}, w.process.up = true →
      w.process.handlers id = none →
      arrived id (es ++ [.request id upload]) = some upload := by
    intro id upload up new
    rw [arrived_concat, h.new id up new, arrived_own]
    rfl
  have busy : ∀ {id : Nat} {pc : HandlerPc}, w.process.handlers id = some pc → pc ≠ .ended →
      w.process.handlers id ≠ some .ended := by
    intro id pc waits running ended
    exact running (Option.some.inj (waits.symm.trans ended))
  cases move with
  | idle e known =>
      rw [Option.map_none, Option.toList_none, List.append_nil]
      refine h.idle rfl rfl fun id up new => ⟨up, ?_⟩
      cases e with
      | request i upload =>
          refine arrived_request (fun same => ?_) upload
          exact known i upload rfl up (same ▸ new)
      | settle i now outcome | removed dir left => rfl
  | refused id upload response up new fits =>
      refine h.at (by rw [new]; exact nofun) (fun i other => ⟨rfl, arrived_request other upload⟩)
        (fun l own => ?_) (Or.inr ⟨rfl, upload, response, arrives up new, rfl, fits⟩)
      exact arrived_known (h.upload id l own) _
  | received id buffer up new =>
      refine h.at (by rw [new]; exact nofun)
        (fun i other => ⟨Function.update_of_ne other _ _, arrived_request other _⟩)
        (fun l own => ?_) (Or.inl ⟨nofun, rfl⟩)
      rw [Function.update_self] at own
      cases own
      exact arrives up new
  | down id now outcome =>
      rw [Option.map_none, Option.toList_none, List.append_nil]
      exact h.idle rfl rfl fun id up _ => nomatch up
  | made id now outcome l p waits own free =>
      refine h.at (busy waits nofun) (fun i other => ⟨Function.update_of_ne other _ _, rfl⟩)
        (fun l' own' => ?_) (Or.inl ⟨nofun, rfl⟩)
      rw [Function.update_self] at own'
      cases own'
      exact arrived_known (h.upload id l own) _
  | advanced id now outcome l p pc pc' files waits working own place ready =>
      refine h.at (busy waits ?_) (fun i other => ⟨rfl, rfl⟩)
        (fun l' own' => arrived_known (h.upload id l' own') _) (Or.inl ⟨?_, rfl⟩)
      · rintro rfl
        cases working
      · rintro rfl
        exact ready
  | responded id now outcome l p pc files response waits working own place fits =>
      refine h.at (busy waits ?_) (fun i other => ⟨rfl, rfl⟩)
        (fun l' own' => arrived_known (h.upload id l' own') _)
        (Or.inr ⟨rfl, _, response, arrived_known (h.upload id l own) _, rfl, fits⟩)
      rintro rfl
      cases working
  | removed dir left mem =>
      rw [Option.map_none, Option.toList_none, List.append_nil]
      exact h.idle rfl rfl fun id up new => ⟨up, rfl⟩

end Served

theorem served_run (host : Host) (disk : Disk) (es : List Work) :
    Served host es (answers (step host) (.init disk) es) (run (step host) (.init disk) es) := by
  refine @run_history _ _ _ (step host)
    (fun es => Served host es (answers (Workspace.step host) (.init disk) es)) _ ⟨fun _ _ _ => rfl, fun _ _ own => ?_, fun _ _ => rfl, fun _ ended => ?_⟩
    (fun xs e h => ?_) es
  · cases own
  · cases ended
  · rw [answers_append, answers, answers, List.append_nil]
    exact h.step (step_move (sound_run host disk xs) e)

end Workspace

/-- Over any interleaving, a request whose handler has ended has been answered once, and
no other has been answered; a scan is answered with the command's reading of the bytes
that this request has uploaded, or with an error. -/
theorem answered_once_from_own_upload (host : Host) (disk : Disk) (es : List Work) (id : Nat) :
    let w := run (Workspace.step host) (.init disk) es
    let responses := Workspace.responsesTo id (answers (Workspace.step host) (.init disk) es)
    (w.process.handlers id = some .ended → ∃ upload response,
      Workspace.arrived id es = some upload ∧ responses = [response] ∧
        Fits host upload response) ∧
      (w.process.handlers id ≠ some .ended → responses = []) := by
  have served := Workspace.served_run host disk es
  exact ⟨served.answered id, served.silent id⟩

end Ocr
end IdpSaas
