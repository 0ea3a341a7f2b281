/-
# Writing events

The fields of an event, and of every message inside one, stand in the order of their numbers.
Texts that are empty and flags that are not set are left out, and so are messages that are missing;
a message that is there is written even if nothing stands in it. The fields of each message convey
that message to its reader (`Event.conveys_fields`), so a record that is not too long denotes the
event it was written from (`Event.ofRecord?_encode`).
-/

import PackageListing.Build.Event
import PackageListing.Proofs.Wire.Message

namespace PackageListing
namespace Build

open Wire

/-! ### The fields of each message -/

/-- A message whose only field is a text, as field `number`. -/
def nameField (number : Nat) (name : String) : Field :=
  messageField number (textField 1 name)

/-- The fields of a target. -/
def TargetId.fields (t : TargetId) : List Field :=
  textField 1 t.label ++ textField 2 t.aspect

/-- The fields of what an event tells of. -/
def EventId.fields (i : EventId) : List Field :=
  i.targetCompleted.toList.map (fun t => messageField 5 t.fields) ++
    i.namedSet.toList.map (nameField 13)

/-- The fields of an output group. -/
def OutputGroup.fields (g : OutputGroup) : List Field :=
  textField 1 g.name ++ g.fileSets.map (nameField 3)

/-- The fields of a completion. -/
def Completion.fields (c : Completion) : List Field :=
  flagField 1 c.success ++ c.outputGroups.map fun g => messageField 2 g.fields

/-- The fields of a set of files. -/
def FileSet.fields (s : FileSet) : List Field :=
  s.files.map (nameField 1) ++ s.fileSets.map (nameField 2)

/-- The fields of an event. -/
def Event.fields (e : Event) : List Field :=
  e.id.toList.map (fun i => messageField 1 i.fields) ++
    (e.completed.toList.map (fun c => messageField 8 c.fields) ++
      e.fileSet.toList.map fun s => messageField 15 s.fields)

/-- The bytes of an event. -/
def Event.encode (e : Event) : List UInt8 :=
  encodeFields e.fields

/-! ### What the fields convey -/

/-- A message whose only field is a text conveys this text. -/
theorem conveys_nameField {α : Type} {step : α → Field → Option α} {a : α} {number depth : Nat}
    (hk : 1 ≤ number ∧ number < 2 ^ 29) (hdepth : depth < nesting) (put : String → α)
    (hstep : ∀ payload, step a ⟨number, payload⟩ = (name? depth ⟨number, payload⟩ "").map put)
    (name : String) : Conveys step a [nameField number name] (put name) := by
  have hname : Conveys (onlyField 1 nameStep) "" (textField 1 name) name :=
    conveys_textField (by decide) (fun s => s) (fun payload => by
      rw [Option.map_id']
      rfl) name
  exact hname.message hk (Nat.sub_pos_of_lt hdepth) put (hstep _)

theorem TargetId.conveys_fields (t : TargetId) : Conveys step ⟨"", ""⟩ t.fields t := by
  have hlabel : Conveys step ⟨"", ""⟩ (textField 1 t.label) ⟨t.label, ""⟩ :=
    conveys_textField (by decide) (fun label => (⟨label, ""⟩ : TargetId)) (fun _ => rfl) t.label
  have haspect : Conveys step ⟨t.label, ""⟩ (textField 2 t.aspect) t :=
    conveys_textField (by decide) (fun aspect => (⟨t.label, aspect⟩ : TargetId)) (fun _ => rfl)
      t.aspect
  exact hlabel.append haspect

theorem EventId.conveys_fields (i : EventId) : Conveys step ⟨none, none⟩ i.fields i := by
  have htarget : Conveys step ⟨none, none⟩
      (i.targetCompleted.toList.map fun t => messageField 5 t.fields)
      ⟨i.targetCompleted, none⟩ := by
    refine conveys_optional (fun o => (⟨o, none⟩ : EventId)) (fun t => ?_) i.targetCompleted
    exact t.conveys_fields.message (by decide) (by decide) (fun t => (⟨some t, none⟩ : EventId)) rfl
  have hset : Conveys step ⟨i.targetCompleted, none⟩ (i.namedSet.toList.map (nameField 13)) i := by
    refine conveys_optional (fun o => (⟨i.targetCompleted, o⟩ : EventId)) (fun s => ?_) i.namedSet
    exact conveys_nameField (by decide) (by decide)
      (fun s => (⟨i.targetCompleted, some s⟩ : EventId)) (fun _ => rfl) s
  exact htarget.append hset

theorem OutputGroup.conveys_fields (g : OutputGroup) : Conveys step ⟨"", []⟩ g.fields g := by
  have hname : Conveys step ⟨"", []⟩ (textField 1 g.name) ⟨g.name, []⟩ :=
    conveys_textField (by decide) (fun name => (⟨name, []⟩ : OutputGroup)) (fun _ => rfl) g.name
  have hsets : Conveys step ⟨g.name, []⟩ (g.fileSets.map (nameField 3)) g := by
    refine conveys_repeated (fun sets => (⟨g.name, sets⟩ : OutputGroup)) (fun done s => ?_)
      g.fileSets
    exact conveys_nameField (by decide) (by decide)
      (fun s => (⟨g.name, done ++ [s]⟩ : OutputGroup)) (fun _ => rfl) s
  exact hname.append hsets

theorem Completion.conveys_fields (c : Completion) : Conveys step ⟨false, []⟩ c.fields c := by
  have hflag : Conveys step ⟨false, []⟩ (flagField 1 c.success) ⟨c.success, []⟩ :=
    conveys_flagField (by decide) (fun success => (⟨success, []⟩ : Completion)) (fun _ => rfl)
      c.success
  have hgroups : Conveys step ⟨c.success, []⟩
      (c.outputGroups.map fun g => messageField 2 g.fields) c := by
    refine conveys_repeated (fun groups => (⟨c.success, groups⟩ : Completion)) (fun done g => ?_)
      c.outputGroups
    exact g.conveys_fields.message (by decide) (by decide)
      (fun g => (⟨c.success, done ++ [g]⟩ : Completion)) rfl
  exact hflag.append hgroups

theorem FileSet.conveys_fields (s : FileSet) : Conveys step ⟨[], []⟩ s.fields s := by
  have hfiles : Conveys step ⟨[], []⟩ (s.files.map (nameField 1)) ⟨s.files, []⟩ := by
    refine conveys_repeated (fun files => (⟨files, []⟩ : FileSet)) (fun done file => ?_) s.files
    exact conveys_nameField (by decide) (by decide)
      (fun file => (⟨done ++ [file], []⟩ : FileSet)) (fun _ => rfl) file
  have hsets : Conveys step ⟨s.files, []⟩ (s.fileSets.map (nameField 2)) s := by
    refine conveys_repeated (fun sets => (⟨s.files, sets⟩ : FileSet)) (fun done set => ?_)
      s.fileSets
    exact conveys_nameField (by decide) (by decide)
      (fun set => (⟨s.files, done ++ [set]⟩ : FileSet)) (fun _ => rfl) set
  exact hfiles.append hsets

theorem Event.conveys_fields (e : Event) : Conveys step ⟨none, none, none⟩ e.fields e := by
  have hid : Conveys step ⟨none, none, none⟩ (e.id.toList.map fun i => messageField 1 i.fields)
      ⟨e.id, none, none⟩ := by
    refine conveys_optional (fun o => (⟨o, none, none⟩ : Event)) (fun i => ?_) e.id
    exact i.conveys_fields.message (by decide) (by decide)
      (fun i => (⟨some i, none, none⟩ : Event)) rfl
  have hcompleted : Conveys step ⟨e.id, none, none⟩
      (e.completed.toList.map fun c => messageField 8 c.fields) ⟨e.id, e.completed, none⟩ := by
    refine conveys_optional (fun o => (⟨e.id, o, none⟩ : Event)) (fun c => ?_) e.completed
    exact c.conveys_fields.message (by decide) (by decide)
      (fun c => (⟨e.id, some c, none⟩ : Event)) rfl
  have hset : Conveys step ⟨e.id, e.completed, none⟩
      (e.fileSet.toList.map fun s => messageField 15 s.fields) e := by
    refine conveys_optional (fun o => (⟨e.id, e.completed, o⟩ : Event)) (fun s => ?_) e.fileSet
    exact s.conveys_fields.message (by decide) (by decide)
      (fun s => (⟨e.id, e.completed, some s⟩ : Event)) rfl
  exact hid.append (hcompleted.append hset)

/-- **A record denotes the event it was written from,** if it is not too long. -/
theorem Event.ofRecord?_encode {e : Event} (h : e.encode.length < 2 ^ 64) :
    ofRecord? e.encode = some e :=
  e.conveys_fields.merge? (by decide) h

end Build
end PackageListing
