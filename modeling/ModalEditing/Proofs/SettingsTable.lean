import ModalEditing.Proofs.WrittenKeys
import ModalEditing.Settings

/-! The tables that settings make. Their handlers run in the modes meant for them only, and the
keys that their mappings produce are as a host reports them. -/

namespace ModalEditing

def EditCommand.modes : EditCommand → ModeSet
  | toggleVisual _ => { normal := true, visual := true }
  | toggleSelectVisual | singleVisualCommand => .selecting
  | swapEnds => { visual := true }
  | enterInsert | append | insertAtLineStart | appendAtLineEnd | enterReplace | enterSelect _ =>
    { normal := true }

def Handler.modes : Handler → ModeSet
  | motion _ | operator _ => .commands
  | textObject _ => .objects
  | command c => c.modes
  | extension _ => {}

def Target.Fits (modes : ModeSet) : Target → Prop
  | keys ks => ∀ k ∈ ks, k.normalize = k
  | handler h => modes = h.modes

def Mapping.Fits (m : Mapping) : Prop := m.target.Fits m.modes

def Keymap.Fits (km : Keymap) : Prop := ∀ m ∈ km.mappings, m.Fits

namespace Key

theorem normalize_of_named : ∀ e ∈ named, e.2.normalize = e.2 := by decide

theorem normalize_of_ofName? {name : List Char} {k : Key} (h : ofName? name = some k) :
    k.normalize = k := by
  unfold ofName? at h
  split at h
  · next k' found =>
    obtain rfl := Option.some.inj h
    obtain ⟨l, r, split, _⟩ := List.lookup_eq_some_iff.1 found
    exact normalize_of_named (String.ofList (name.map lowerAscii), k') (by simp [split])
  · unfold ofChord? at h
    split at h
    · obtain ⟨mods, _, hk⟩ := Option.bind_eq_some_iff.1 h
      obtain rfl := Option.some.inj hk
      exact normalize_normalize _
    · contradiction

theorem normalize_of_readChars {cs : List Char} {ks : List Key} (h : readChars cs = .ok ks) :
    ∀ k ∈ ks, k.normalize = k :=
  forall_of_readChars normalize_plain (fun _ _ _ => normalize_of_ofName?) h

end Key

mutual

def Registration.Fits : Registration → Prop
  | .keys modes _ produced _ => (Target.keys produced).Fits modes
  | .handler modes _ h => (Target.handler h).Fits modes
  | .extension _ entries => Registration.AllFit entries

def Registration.AllFit : List Registration → Prop
  | [] => True
  | e :: es => e.Fits ∧ Registration.AllFit es

end

theorem Registration.allFit_iff (es : List Registration) :
    Registration.AllFit es ↔ ∀ e ∈ es, e.Fits := by
  induction es with
  | nil => simp [AllFit]
  | cons e es ih => rw [AllFit, ih, List.forall_mem_cons]

namespace Registry

def Fits (r : Registry) : Prop := ∀ m ∈ r.mappings, m.Fits

theorem add_fits {r : Registry} {modes : ModeSet} {ks : List Key} {target : Target} {remap : Bool}
    (hr : r.Fits) (ht : target.Fits modes) : (r.add modes ks target remap).Fits := by
  unfold add
  split
  · intro m hm
    rcases List.mem_append.1 hm with old | new
    · exact hr m old
    · rw [List.mem_singleton] at new
      subst new
      exact ht
  · exact hr

mutual

theorem register_fits {r r' : Registry} {e : Registration} (hr : r.Fits) (he : e.Fits)
    (h : r.register e = .ok r') : r'.Fits := by
  cases e with
  | keys modes ks produced remap =>
    rw [register, Except.ok.injEq] at h
    rw [Registration.Fits] at he
    exact h ▸ add_fits hr he
  | handler modes ks f =>
    rw [register, Except.ok.injEq] at h
    rw [Registration.Fits] at he
    exact h ▸ add_fits hr he
  | extension name entries =>
    rw [register] at h
    rw [Registration.Fits] at he
    split at h
    · contradiction
    · obtain rfl := Except.ok.inj h
      let opened : Registry := { r with extensions := r.extensions ++ [name], owner := some name }
      exact registerEach_fits (r := opened) hr he

theorem registerEach_fits {r : Registry} {es : List Registration} (hr : r.Fits)
    (hes : Registration.AllFit es) : (r.registerEach es).Fits := by
  cases es with
  | nil =>
    rw [registerEach]
    exact hr
  | cons e es =>
    rw [Registration.AllFit] at hes
    rw [registerEach]
    split
    · next taken => exact registerEach_fits (register_fits hr hes.1 taken) hes.2
    · exact registerEach_fits hr hes.2

end

theorem modes_of_normalKeys : ∀ e ∈ normalKeys, e.2.modes = { normal := true } := by decide

theorem modes_of_selectionKeys : ∀ e ∈ selectionKeys, e.2.2.modes = e.1 := by decide

theorem standardEntries_fit : ∀ e ∈ standardEntries, e.Fits := by
  simp only [standardEntries, List.mem_append, List.mem_map, or_imp, forall_and,
    forall_exists_index, and_imp, forall_apply_eq_imp_iff₂]
  refine ⟨⟨⟨?_, ?_⟩, ?_⟩, ?_⟩
  · intro e _
    rw [Registration.Fits]
    rfl
  · intro o _
    rw [Registration.Fits]
    rfl
  · intro e he
    rw [Registration.Fits]
    exact (modes_of_normalKeys e he).symm
  · intro e he
    rw [Registration.Fits]
    exact (modes_of_selectionKeys e he).symm

theorem indentObjects_fit : indentObjects.Fits := by
  rw [indentObjects, Registration.Fits, Registration.allFit_iff]
  simp only [List.mem_append, List.mem_map, or_imp, forall_and, forall_exists_index, and_imp,
    forall_apply_eq_imp_iff₂]
  refine ⟨?_, ?_⟩
  · intro e _
    rw [Registration.Fits]
    rfl
  · intro e _
    rw [Registration.Fits]
    simp only [Target.Fits, Key.plugged, Key.typing, List.mem_cons, List.mem_map]
    rintro k (rfl | ⟨c, _, rfl⟩)
    · rfl
    · exact Key.normalize_plain c

theorem standard_fits : Registry.standard.Fits :=
  registerEach_fits (fun _ h => absurd h List.not_mem_nil)
    ((Registration.allFit_iff _).2 standardEntries_fit)

theorem follow_fits {r r' : Registry} {ds : List Directive} (hr : r.Fits)
    (hds : ∀ d ∈ ds, ∀ e, d.read = .ok e → e.Fits) (h : r.follow ds = .ok r') : r'.Fits := by
  induction ds generalizing r with
  | nil =>
    obtain rfl := Except.ok.inj h
    exact hr
  | cons d ds ih =>
    rw [List.forall_mem_cons] at hds
    rw [follow, List.foldlM_cons] at h
    obtain ⟨r₁, first, rest⟩ := Except.bind_eq_ok_iff.1 h
    obtain ⟨e, read, taken⟩ := Except.bind_eq_ok_iff.1 first
    exact ih (register_fits hr (hds.1 e read) taken) hds.2 rest

end Registry

namespace Settings

theorem directives_fit (s : Settings) :
    ∀ d ∈ s.directives, ∀ e, d.read = .ok e → e.Fits := by
  simp only [directives, List.mem_append, List.mem_map, or_imp, forall_and, forall_exists_index,
    and_imp, forall_apply_eq_imp_iff₂]
  refine ⟨?_, ?_⟩
  · intro name _ e h
    rw [Directive.read, shippedExtension] at h
    split at h
    · exact Except.ok.inj h ▸ Registry.indentObjects_fit
    · contradiction
  · intro m _ e h
    rw [Directive.read] at h
    obtain ⟨modes, _, h⟩ := Except.bind_eq_ok_iff.1 h
    obtain ⟨ks, _, h⟩ := Except.bind_eq_ok_iff.1 h
    obtain ⟨produced, read, h⟩ := Except.bind_eq_ok_iff.1 h
    obtain rfl := Except.ok.inj h
    rw [Registration.Fits]
    exact Key.normalize_of_readChars read

theorem keymap_fits {s : Settings} {km : Keymap} (h : s.keymap = .ok km) : km.Fits := by
  obtain ⟨r, followed, hk⟩ := Except.bind_eq_ok_iff.1 h
  obtain rfl := Except.ok.inj hk
  exact Registry.follow_fits Registry.standard_fits s.directives_fit followed

end Settings

theorem Registry.standard_extensions : Registry.standard.extensions = [] := rfl

/-- The standard keymap is what settings give that ask for the indentation objects alone. -/
theorem Settings.keymap_indentObjects :
    Settings.keymap { extensions := ["textobj-indent"] } = .ok Keymap.standard := by
  have taken : ∃ r, Registry.standard.register indentObjects = .ok r := by
    rw [indentObjects, Registry.register, Registry.standard_extensions, if_neg List.not_mem_nil]
    exact ⟨_, rfl⟩
  obtain ⟨r, hr⟩ := taken
  have table : Registry.standard.registerEach [indentObjects] = r := by
    simp only [Registry.registerEach, hr]
  have followed : Registry.standard.follow [.shipped "textobj-indent"] = .ok r := by
    simp only [Registry.follow, List.foldlM_cons, List.foldlM_nil, Directive.read, shippedExtension,
      if_true]
    exact Except.bind_eq_ok_iff.2 ⟨r, Except.bind_eq_ok_iff.2 ⟨_, rfl, hr⟩, rfl⟩
  rw [Keymap.standard, table]
  exact Except.bind_eq_ok_iff.2 ⟨r, followed, rfl⟩

theorem Keymap.standard_fits : Keymap.standard.Fits :=
  Settings.keymap_fits Settings.keymap_indentObjects

end ModalEditing
