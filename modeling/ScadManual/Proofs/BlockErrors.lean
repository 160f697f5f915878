import ScadManual.Proofs.Forest

/-!
# What blocks are refused for

A block is refused for what it is or for where it stands, and the error names its title.  Some steps could stop for
another reason as well: what is known of a file or an item can only be changed where there is one, and only items
count examples.  These steps come after it was looked up what is open, and what is open is what it should be, so
reading never meets those errors: that an item is missing is said of a block only while none is open.
-/

namespace ScadManual.Manual

variable {α β : Type} {F : Error → Prop} {m m₀ : Manual} {b : Block}

/-! ## Errors of a kind -/

/-- Whatever error the step stops with is of a kind. -/
def StopsWith (F : Error → Prop) (m : Manual) (x : Building α) : Prop := ∀ e, (x.exec m).1 = .error e → F e

theorem stopsWith_of_ok {x : Building α} {a : α} {m' : Manual} (h : x.exec m = (.ok a, m')) : StopsWith F m x := by
  intro e he
  rw [h] at he
  exact nomatch he

theorem stopsWith_lift {x : Except Error α} (h : ∀ e, x = .error e → F e) :
    StopsWith F m (liftM x : Building α) := h

theorem StopsWith.bind {x : Building α} {f : α → Building β} (hx : StopsWith F m x)
    (hf : ∀ a m', x.exec m = (.ok a, m') → StopsWith F m' (f a)) : StopsWith F m (x >>= f) := by
  intro e he
  rw [Work.exec_bind] at he
  rcases hexec : x.exec m with ⟨r, m'⟩
  rw [hexec] at he
  cases r with
  | ok a => exact hf a m' hexec e he
  | error e' =>
    obtain rfl := Except.error.inj he
    exact hx e' (congrArg Prod.fst hexec)

theorem stopsWith_lift_bind {x : Except Error α} {f : α → Building β} (hx : ∀ e, x = .error e → F e)
    (hf : ∀ a, x = .ok a → StopsWith F m (f a)) : StopsWith F m ((liftM x : Building α) >>= f) := by
  refine StopsWith.bind (stopsWith_lift hx) fun a m' hexec => ?_
  obtain ⟨hvalue, rfl⟩ := Prod.mk.inj hexec
  exact hf a hvalue

theorem stopsWith_read_bind {g : Manual → α} {f : α → Building β} (hf : StopsWith F m (f (g m))) :
    StopsWith F m (Work.read g >>= f) := hf

theorem stopsWith_ite {c : Prop} [Decidable c] {x y : Building α} (hx : c → StopsWith F m x)
    (hy : ¬c → StopsWith F m y) : StopsWith F m (if c then x else y) := by
  split
  · next h => exact hx h
  · next h => exact hy h

/-! ## Errors of a block -/

/-- What a block is refused for in a manual.  That an item is missing is said only by strict settings, while none is
open, and that a node is no file never. -/
inductive Fault (m : Manual) (b : Block) : Error → Prop
  | misuse {misuse : Misuse} (hitem : misuse ≠ .itemMissing) (hfile : misuse ≠ .fileExpected) :
      Fault m b (.structural b.title misuse)
  | noItem (hnone : m.place.item? = none) (hstrict : m.settings.strict = true) :
      Fault m b (.structural b.title .itemMissing)
  | duplicate (name : String) (previous : Origin) : Fault m b (.duplicate b.title name previous)

theorem fault_refuse {misuse : Misuse} (hitem : misuse ≠ .itemMissing) (hfile : misuse ≠ .fileExpected) {e : Error}
    (he : (refuse b.title misuse : Except Error α) = .error e) : Fault m b e := by
  obtain rfl := Except.error.inj he
  exact .misuse hitem hfile

theorem fault_requireNoBody {e : Error} (he : requireNoBody b.title b.body = .error e) : Fault m b e := by
  unfold requireNoBody at he
  split at he
  · exact nomatch he
  · exact fault_refuse (by decide) (by decide) he

theorem fault_requireFree {r : References} {d : Document} {name : String} {e : Error}
    (he : r.requireFree d b.title name = .error e) : Fault m b e := by
  unfold References.requireFree at he
  split at he
  · obtain rfl := Except.error.inj he
    exact .duplicate _ _
  · exact nomatch he

theorem fault_shaped {shape : Shape} {e : Error} (he : shaped shape b = .error e) : Fault m b e := by
  cases shape with
  | label =>
    cases hbody : requireNoBody b.title b.body with
    | ok _ =>
      simp only [shaped, hbody] at he
      exact nomatch he
    | error e' =>
      simp only [shaped, hbody] at he
      obtain rfl := Except.error.inj he
      exact fault_requireNoBody hbody
  | table headerSets =>
    simp only [shaped] at he
    split at he
    · exact nomatch he
    · exact fault_refuse (by decide) (by decide) he
  | text | headerless | bulletList | numberedList | generic | figure | _ => exact nomatch he

theorem fault_namedTags {tags : Dict} {names : List String} {e : Error}
    (he : namedTags tags b.title names = .error e) : Fault m b e := by
  induction names with
  | nil => exact nomatch he
  | cons tag names ih =>
    rw [namedTags, List.mapM_cons] at he
    change (_ >>= fun named => namedTags tags b.title names >>= fun rest => pure (named :: rest)) = _ at he
    cases hget : tags.get? tag with
    | none =>
      rw [hget] at he
      exact fault_refuse (by simp) (by simp) he
    | some text =>
      rw [hget] at he
      cases hrest : namedTags tags b.title names with
      | ok rest =>
        rw [hrest] at he
        exact nomatch he
      | error e' =>
        rw [hrest] at he
        obtain rfl := Except.error.inj he
        exact ih hrest

theorem fault_labelled {tags : Dict} {label : Label} {e : Error} (he : labelled tags label b = .error e) :
    Fault m b e := by
  cases label with
  | tags =>
    simp only [labelled] at he
    cases hnamed : namedTags tags b.title (listedNames b.subtitle) with
    | ok named =>
      rw [hnamed] at he
      exact nomatch he
    | error e' =>
      rw [hnamed] at he
      obtain rfl := Except.error.inj he
      exact fault_namedTags hnamed
  | synopsis | topics | seeAlso => exact nomatch he

/-- A rule that cannot be defined is the fault of the block that defines it. -/
theorem fault_define (hb : b.title = "DefineHeader") {rules : Registry} {title metadata : String} {e : Error}
    (he : rules.define title metadata = .error e) : Fault m b e := by
  have hparse : Rule.parse metadata = .error e := by
    rw [Registry.define] at he
    cases hparsed : Rule.parse metadata with
    | ok rule =>
      rw [hparsed] at he
      cases he
    | error e' =>
      rw [hparsed] at he
      exact congrArg Except.error (Except.error.inj he)
  unfold Rule.parse Rule.ofDict at hparse
  have hnamed {misuse : Misuse} (hitem : misuse ≠ .itemMissing) (hfile : misuse ≠ .fileExpected)
      (hmisuse : (.error (.structural "DefineHeader" misuse) : Except Error Rule) = .error e) : Fault m b e := by
    rw [← hb] at hmisuse
    exact fault_refuse hitem hfile hmisuse
  extract_lets demand rule at hparse
  split at hparse
  · cases hparse
  split at hparse
  · cases hparse
  split at hparse
  · split at hparse
    · cases hparse
    · exact hnamed (by decide) (by decide) hparse
  -- every other shape that is named makes a rule
  repeat' (split at hparse; · cases hparse)
  exact hnamed (by decide) (by decide) hparse

/-! ## Steps of a block -/

theorem requireFile_stops {f : NodeId → Building α}
    (hf : ∀ file, m.place.file? = some file → StopsWith (Fault m₀ b) m (f file)) :
    StopsWith (Fault m₀ b) m (requireFile b.title >>= f) := by
  intro e he
  rw [Work.exec_bind, exec_requireFile] at he
  cases hfile : m.place.file? with
  | none =>
    rw [hfile] at he
    exact fault_refuse (by decide) (by decide) he
  | some file =>
    rw [hfile] at he
    exact hf file hfile e he

/-- A block that needs an item is refused for want of one only when none is open. -/
theorem withItem_stops {take : NodeId → Building Unit}
    (ht : ∀ item, m.place.item? = some item → StopsWith (Fault m b) m (take item)) :
    StopsWith (Fault m b) m (withItem b.title take) := by
  intro e he
  rw [exec_withItem] at he
  cases hitem : m.place.item? with
  | some item =>
    rw [hitem] at he
    exact ht item hitem e he
  | none =>
    rw [hitem] at he
    cases hstrict : m.settings.strict with
    | true =>
      rw [hstrict] at he
      obtain rfl := Except.error.inj he
      exact .noItem hitem hstrict
    | false =>
      rw [hstrict] at he
      exact nomatch he

theorem openFile_stops : StopsWith (Fault m₀ b) m (openFile b) := by
  refine stopsWith_read_bind ?_
  cases m.place.file? with
  | some _ => exact stopsWith_lift fun e he => fault_refuse (by decide) (by decide) he
  | none => exact stopsWith_of_ok rfl

theorem openSubsection_stops : StopsWith (Fault m₀ b) m (openSubsection b) := by
  have hrefuse {misuse : Misuse} (hitem : misuse ≠ .itemMissing) (hfile : misuse ≠ .fileExpected) :
      StopsWith (Fault m₀ b) m (liftM (refuse b.title misuse : Except Error Unit)) :=
    stopsWith_lift fun e he => fault_refuse hitem hfile he
  refine stopsWith_read_bind ?_
  split
  · exact stopsWith_ite (fun _ => hrefuse (by decide) (by decide)) fun _ => stopsWith_of_ok rfl
  · exact hrefuse (by decide) (by decide)

theorem declare_stops (name : String) (item : NodeId) : StopsWith (Fault m₀ b) m (declare b.title name item) := by
  intro e he
  rw [exec_declare] at he
  cases hget : m.references.get? name with
  | none =>
    rw [hget] at he
    exact nomatch he
  | some owner =>
    rw [hget] at he
    obtain rfl := Except.error.inj he
    exact .duplicate _ _

theorem itemSection_stops (file : NodeId) (origin : Origin) : StopsWith F m (itemSection file origin) := by
  refine stopsWith_read_bind ?_
  cases m.place.section? with
  | some sect => exact stopsWith_of_ok rfl
  | none => exact stopsWith_of_ok rfl

theorem declareItem_stops : StopsWith (Fault m₀ b) m (declareItem b) := by
  refine requireFile_stops fun file _ => ?_
  refine stopsWith_read_bind ?_
  refine stopsWith_lift_bind (fun e he => fault_requireFree he) fun _ _ => ?_
  refine stopsWith_lift_bind (fun e he => fault_requireNoBody he) fun _ _ => ?_
  refine (itemSection_stops file b.origin).bind fun sect m₂ _ => ?_
  refine StopsWith.bind (stopsWith_of_ok rfl) fun item m₃ _ => ?_
  exact (declare_stops b.subtitle item).bind fun _ _ _ => stopsWith_of_ok rfl

/-- Of several names that are taken the first one is reported. -/
theorem declareAliases_stops (item : NodeId) (names : List String) :
    StopsWith (Fault m₀ b) m (declareAliases b.title item names) := by
  induction names generalizing m with
  | nil => exact fun e he => nomatch he
  | cons name names ih =>
    have hfirst : StopsWith (Fault m₀ b) m (declareAlias b.title item name) :=
      (declare_stops name item).bind fun _ _ _ => stopsWith_of_ok rfl
    rcases hexec : (declareAlias b.title item name).exec m with ⟨r, m'⟩
    intro e he
    cases r with
    | ok _ =>
      rw [exec_declareAliases_of_ok hexec] at he
      exact ih e he
    | error e' =>
      rw [exec_declareAliases_of_error hexec] at he
      obtain rfl := Except.error.inj he
      exact hfirst e' (congrArg Prod.fst hexec)

theorem applyEffect_stops (effect : Effect) (subtitle : String) :
    StopsWith (Fault m₀ b) m (applyEffect effect b.title subtitle) := by
  refine stopsWith_read_bind ?_
  cases m.place.item? with
  | none => exact stopsWith_of_ok rfl
  | some item =>
    cases effect with
    | status => exact stopsWith_of_ok rfl
    | aliases => exact declareAliases_stops item _

theorem addShaped_stops (rule : Rule) (parent : NodeId) : StopsWith (Fault m₀ b) m (addShaped rule parent b) := by
  refine stopsWith_lift_bind (fun e he => fault_shaped he) fun ⟨kind, subtitle, body⟩ _ => ?_
  refine StopsWith.bind (stopsWith_of_ok rfl) fun _ m' _ => ?_
  cases rule.effect with
  | none => exact stopsWith_of_ok rfl
  | some effect => exact applyEffect_stops effect subtitle

/-! ## Steps that need what is open -/

section Standing

variable {file : String} {l : Nat} (hs : Standing file l m)
include hs

theorem changeFile_stops {id : NodeId} (hf : m.place.file? = some id) (change : FileInfo → FileInfo) :
    StopsWith F m (changeFile id change) :=
  stopsWith_of_ok ((exec_changeFile id change m).trans (if_pos (hs.isFile hf)))

theorem describeFile_stops (change : FileInfo → FileInfo) : StopsWith (Fault m₀ b) m (describeFile b change) :=
  stopsWith_ite (fun _ => stopsWith_lift fun _ he => fault_refuse (by decide) (by decide) he) fun _ =>
    requireFile_stops fun _ hf => changeFile_stops hs hf change

theorem addIncludes_stops : StopsWith (Fault m₀ b) m (addIncludes b) :=
  requireFile_stops fun _ hf => (changeFile_stops hs hf _).bind fun _ _ _ => stopsWith_of_ok rfl

theorem labelItem_stops {item : NodeId} (hi : m.place.item? = some item) (label : Label) :
    StopsWith (Fault m₀ b) m (labelItem item label b) := by
  refine stopsWith_lift_bind (fun e he => fault_requireNoBody he) fun _ _ => ?_
  refine stopsWith_read_bind ?_
  refine stopsWith_lift_bind (fun e he => fault_labelled he) fun change _ => ?_
  have hchange := (exec_changeItem item change m).trans (if_pos (hs.isItem hi))
  exact StopsWith.bind (stopsWith_of_ok hchange) fun _ _ _ => stopsWith_of_ok rfl

/-- Once something takes the images of a block, none of them is refused. -/
theorem addImages_stops {kind : ImageKind} {parent : NodeId} (hp : m.TakesImage kind parent) (label : String)
    (each : Bool) : StopsWith F m (addImages kind label each b) := by
  refine stopsWith_read_bind ?_
  rw [hp.1]
  refine stopsWith_ite (fun _ => ?_) fun _ => ?_
  · obtain ⟨m', hexec⟩ :=
      exec_addImageLines_of_counts (hs.counts hp) label b.subtitle b.metadata b.origin b.body
    exact stopsWith_of_ok hexec
  · obtain ⟨info, -, hexec⟩ :=
      exec_addImage_of_counts (hs.counts hp) label b.subtitle b.metadata b.body b.origin
    exact stopsWith_of_ok hexec

/-- The images of an item that is open. -/
theorem addExamples_stops (label : String) (each : Bool) :
    StopsWith (Fault m b) m (withItem b.title fun _ => addImages .example label each b) :=
  withItem_stops fun _ hi => addImages_stops hs ⟨Place.parent?_of_item? hi, fun _ => hi⟩ label each

theorem addByShape_stops (rule : Rule) : StopsWith (Fault m b) m (addByShape rule b) := by
  refine stopsWith_read_bind ?_
  cases hp : m.place.parent? with
  | none => exact stopsWith_lift fun e he => fault_refuse (by decide) (by decide) he
  | some parent =>
    simp only
    split
    · have htakes : m.TakesImage .figure parent := ⟨hp, fun h => nomatch h⟩
      exact addImages_stops hs htakes b.title false
    · exact addExamples_stops hs b.title false
    · exact addShaped_stops rule parent

theorem addRuled_stops (rule : Rule) : StopsWith (Fault m b) m (addRuled rule b) := by
  unfold addRuled
  split
  · exact withItem_stops fun _ _ => addByShape_stops hs rule
  · exact addByShape_stops hs rule

theorem addTitled_stops : StopsWith (Fault m b) m (addTitled b) := by
  refine stopsWith_read_bind ?_
  cases m.rules.get? b.title with
  | some rule => exact addRuled_stops hs rule
  | none =>
    refine stopsWith_ite (fun _ => declareItem_stops) fun _ => ?_
    cases Label.ofTitle? b.title with
    | some label => exact withItem_stops fun _ hi => labelItem_stops hs hi label
    | none => exact stopsWith_lift fun e he => fault_refuse (by decide) (by decide) he

theorem addInside_stops : StopsWith (Fault m b) m (addInside b) := by
  have hfigures (each : Bool) : StopsWith (Fault m b) m (addFigures each b) := by
    refine requireFile_stops fun file hf => ?_
    obtain ⟨parent, hp⟩ := Option.isSome_iff_exists.1 ((Place.isSome_parent? m.place).trans (by rw [hf]; rfl))
    have htakes : m.TakesImage .figure parent := ⟨hp, fun h => nomatch h⟩
    exact addImages_stops hs htakes "Figure" each
  unfold addInside
  split
  · exact requireFile_stops fun _ _ => stopsWith_of_ok rfl
  · exact openSubsection_stops
  · exact addIncludes_stops hs
  · exact requireFile_stops fun _ hf => changeFile_stops hs hf _
  · exact describeFile_stops hs _
  · exact describeFile_stops hs _
  · exact describeFile_stops hs _
  · exact hfigures false
  · exact hfigures true
  · exact addExamples_stops hs "Example" false
  · exact addExamples_stops hs "Example" true
  · exact addTitled_stops hs

/-- **Every error of a block names the block, and an item is missing only when none is open.** -/
theorem addBlock_stops : StopsWith (Fault m b) m (addBlock b) := by
  unfold addBlock
  split
  · next hb =>
    refine stopsWith_read_bind ?_
    exact stopsWith_lift_bind (fun e he => fault_define hb he) fun _ _ => stopsWith_of_ok rfl
  · exact openFile_stops
  · exact openFile_stops
  · refine stopsWith_read_bind (stopsWith_ite (fun _ => ?_) fun _ => addInside_stops hs)
    exact stopsWith_lift fun e he => fault_refuse (by decide) (by decide) he

end Standing

end ScadManual.Manual
