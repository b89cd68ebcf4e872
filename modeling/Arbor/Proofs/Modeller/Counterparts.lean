import Arbor.Proofs.Document.Appearance
import Arbor.Proofs.Modeller.Hosting
import Arbor.Proofs.Tree.Display

/-!
# A tree in a modeller and on a stage

A stage hosts every tree, and a modeller whose documents can be read back hosts those whose prefab,
parent and owner are in the document.  So a tree in a document and one on a stage that are made
alike, with counterparts on the stage for what is named in the document, answer requests alike and
stay alike.  If the modeller keeps components as they are, the objects of the one lie exactly as
those of the other.
-/

namespace Arbor

open Space

theorem Space.Vec.map_id {C : Type} (v : Vec C) : v.map id = v := by
  rcases v with ⟨x, y, rest⟩
  simp only [Vec.map, id, List.map_id]

namespace Recording.Theatre

/-- A live object on a stage lies as a branch does, under what the settings say. -/
def Lies (settings : Settings Value) (theatre : Theatre) (id : Nat) (stance : Stance) : Prop :=
  ∃ item, theatre.items[id]? = some item ∧ item.destroyed = false ∧
    item.location = stance.position ∧ item.rotation = stance.turns ∧ item.scale = stance.scale ∧
    item.rotation.order = .zxy ∧ item.parent = settings.destination

/-- A stage hosts every tree. -/
def hosting (stage : Nat) (settings : Settings Value) : (scene stage).Hosting settings where
  sound held theatre := theatre.Sound stage ∧ Holding held ((ledger stage).live theatre)
  lies theatre id stance := Lies settings theatre id stance
  plants {held before branch turns} sound spatial heading := by
    rcases sound with ⟨sound, holding⟩
    rcases planted sound settings branch turns with
        ⟨fresh, placed, after, makes, places, moves, stillSound, entered⟩
    have inside {id : Nat} (member : id ∈ held) : id < before.items.size := by
      rcases sound.stands id (holding.live id member) with ⟨item, there, -⟩
      exact (Array.getElem?_eq_some_iff.mp there).1
    have lives (id : Nat) : id ∈ (ledger stage).live after ↔
        id ∈ (ledger stage).live before ∨ id = before.items.size := by
      change id ∈ (after.stage stage).live ↔ _
      rw [entered.live, List.mem_append]
      exact or_congr_right List.mem_singleton
    have shown := entered.there 0
    refine ⟨before.items.size, fresh, placed, after, makes, places, moves,
      ⟨stillSound, ?_, fun id member => (lives id).mpr ?_⟩,
      ⟨_, shown, rfl, rfl, rfl, rfl, Branch.order_of_turns heading,
        settings.destination_eq.symm⟩, ?_⟩
    · refine List.nodup_append.mpr ⟨holding.nodup, List.nodup_singleton _, ?_⟩
      intro id member other last same
      have bound := inside member
      rw [List.mem_singleton.mp last] at same
      omega
    · exact (List.mem_append.mp member).imp (holding.live id) List.mem_singleton.mp
    · rintro other member stance ⟨item, found, lies⟩
      exact ⟨item, (entered.kept (inside member)).trans found, lies⟩
  removes {id held before} sound := by
    rcases sound with ⟨sound, holding⟩
    rcases List.nodup_cons.mp holding.nodup with ⟨single, nodup⟩
    rcases destroy_struck sound (holding.live id List.mem_cons_self) with
        ⟨after, run, stillSound, struck⟩
    refine ⟨after, run, stillSound, nodup, fun other member => ?_⟩
    change other ∈ (after.stage stage).live
    rw [struck.live]
    refine List.mem_filter.mpr ⟨holding.live other (List.mem_cons_of_mem _ member), ?_⟩
    simpa using fun same : other = id => single (same ▸ member)

end Recording.Theatre

namespace Modeller

open Recording

variable {δ H R J : Type} {modeller : Modeller δ H R} {kept : Float32 → Float32} {stage : Nat}
  {settings : Settings H} {counterpart : H → Value} {base : Workshop δ H} {theatre : Theatre}

/-! ## Trees that look alike -/

/-- A tree in a document and one on a stage look alike: they remember the same, and their objects
are alike one by one.  In the document there is nothing else but what was there at first, as it was,
and the renderer's own prefab. -/
structure LookAlike (readable : modeller.Readable kept) (base : Workshop δ H)
    (alike : H → Nat → Prop) (planted : Plot (Workshop δ H) H R J)
    (staged : Plot Theatre Nat Value J) : Prop where
  expanded : planted.tree.expanded = staged.tree.expanded
  points : planted.tree.points = staged.tree.points
  descriptors : planted.tree.descriptors = staged.tree.descriptors
  objects : List.Forall₂ alike planted.tree.branches staged.tree.branches
  single : planted.tree.branches.Nodup ∧ staged.tree.branches.Nodup
  fresh : ∀ handle ∈ planted.tree.branches, ¬ readable.Shows base.document handle
  spared : ∀ handle, readable.Shows base.document handle →
    readable.look planted.scene.document handle = readable.look base.document handle
  only : ∀ handle, readable.Shows planted.scene.document handle →
    readable.Shows base.document handle ∨ handle ∈ planted.tree.branches ∨
      planted.scene.prefab = some handle

/-- A new tree in a document and a new one on a stage that are made alike answer whatever is asked
of both alike at every step.  Their objects lie as the same branches do, on the stage exactly so and
in the document with the components kept as the modeller keeps them. -/
theorem in_step [AngleSource J Float] {readable : modeller.Readable kept}
    (ready : readable.Ready settings base) (sound : theatre.Sound stage) (counterpart : H → Value)
    (jitter : J) (log journal : Log) (requests : List Request) :
    let planted : Plot (Workshop δ H) H R J :=
      ⟨base, log, { settings := settings.map modeller.object, jitter := jitter }⟩
    let staged : Plot Theatre Nat Value J :=
      ⟨theatre, journal, { settings := settings.map counterpart, jitter := jitter }⟩
    let grown := Plot.afterAll modeller.scene requests planted
    let shown := Plot.afterAll (Theatre.scene stage) requests staged
    Plot.outcomes modeller.scene requests planted =
        Plot.outcomes (Theatre.scene stage) requests staged ∧
      LookAlike readable base (fun handle other => ∃ stance,
          readable.Lies settings grown.scene handle stance ∧
          Theatre.Lies (settings.map counterpart) shown.scene other stance) grown shown := by
  intro planted staged grown shown
  have begun : Plot.Kept (Readable.hosting ready) planted :=
    ⟨rfl, Readable.Tended.begun ready, [], rfl, .nil⟩
  have holding : Holding [] ((Theatre.ledger stage).live theatre) :=
    ⟨List.nodup_nil, fun _ member => absurd member List.not_mem_nil⟩
  have opened : Plot.Kept (Theatre.hosting stage (settings.map counterpart)) staged :=
    ⟨rfl, ⟨sound, holding⟩, [], rfl, .nil⟩
  have twins : planted.tree.Twins staged.tree := ⟨rfl, rfl, rfl, rfl, rfl, rfl, rfl⟩
  rcases Plot.afterAll_in_step requests begun opened twins with
      ⟨same, keptAfter, keepsAfter, twins⟩
  have tended : readable.Tended base grown.tree.branches grown.scene := keptAfter.sound
  exact ⟨same, twins.expanded, twins.points, twins.descriptors, keptAfter.paired keepsAfter twins,
    ⟨tended.nodup, keepsAfter.sound.2.nodup⟩, fun handle member => (tended.holds handle member).2,
    tended.spared, tended.only⟩

/-! ## Objects that look the same -/

/-- An object in a document and an item on a stage look the same: they lie in the same way, turned
in the same order, and they are under counterparts, where the settings want them. -/
structure Counterparts (settings : Settings H) (counterpart : H → Value) (sight : Sight H)
    (item : Item) : Prop where
  live : item.destroyed = false
  location : sight.location = item.location
  turns : sight.turns = item.rotation
  order : sight.turns.order = .zxy
  scale : sight.scale = item.scale
  under : sight.parent = settings.destination
  parent : item.parent = sight.parent.map counterpart

/-- An object that lies as a branch does, with its components kept as they are, looks like the item
that lies so. -/
theorem counterparts_of_stance {readable : modeller.Readable id} {workshop : Workshop δ H}
    {handle : H} {other : Nat} {stance : Stance}
    (planted : readable.Lies settings workshop handle stance)
    (staged : Theatre.Lies (settings.map counterpart) theatre other stance) :
    ∃ sight item, readable.look workshop.document handle = some sight ∧
      theatre.items[other]? = some item ∧ Counterparts settings counterpart sight item := by
  rcases staged with ⟨item, there, live, spot, heading, size, order, parent⟩
  refine ⟨_, item, planted, there, live, ?_, ?_, ?_, ?_, rfl, ?_⟩
  · exact (Vec.map_id _).trans spot.symm
  · exact heading.symm
  · exact (congrArg Turns.order heading.symm).trans order
  · exact (Vec.map_id _).trans size.symm
  · rw [parent, Settings.destination_map]

/-- If what is assigned to an object of a modeller reads back as it was assigned, a new tree in a
document and a new one on a stage are one tree.  They are made alike, with the same sways.  The
prefab, the parent and the owner are left out or are in the document, and are played on the stage by
any counterparts.  Whatever is asked of both, they answer alike at every step, and afterwards they
remember the same and have objects that look the same, one by one. -/
theorem trees_look_alike [AngleSource J Float] {readable : modeller.Readable id}
    (ready : readable.Ready settings base) (sound : theatre.Sound stage) (counterpart : H → Value)
    (jitter : J) (log journal : Log) (requests : List Request) :
    let planted : Plot (Workshop δ H) H R J :=
      ⟨base, log, { settings := settings.map modeller.object, jitter := jitter }⟩
    let staged : Plot Theatre Nat Value J :=
      ⟨theatre, journal, { settings := settings.map counterpart, jitter := jitter }⟩
    let grown := Plot.afterAll modeller.scene requests planted
    let shown := Plot.afterAll (Theatre.scene stage) requests staged
    Plot.outcomes modeller.scene requests planted =
        Plot.outcomes (Theatre.scene stage) requests staged ∧
      LookAlike readable base (fun handle other => ∃ sight item,
          readable.look grown.scene.document handle = some sight ∧
          shown.scene.items[other]? = some item ∧ Counterparts settings counterpart sight item)
        grown shown := by
  intro planted staged grown shown
  rcases in_step ready sound counterpart jitter log journal requests with ⟨same, alike⟩
  refine ⟨same, alike.expanded, alike.points, alike.descriptors, alike.objects.imp ?_, alike.single,
    alike.fresh, alike.spared, alike.only⟩
  rintro handle other ⟨stance, planted, staged⟩
  exact counterparts_of_stance planted staged

/-! ## A tree of one branch -/

/-- A document with a root in it, in which a renderer has made nothing yet. -/
def rooted : Workshop Document Nat where
  document :=
    { objects := #[{ name := rootName, home := some .scene }]
      objectNames := { names := [rootName], bases := [(rootName, Document.Numbers.mark 0 {})] } }

/-- The settings of a tree of one branch that stands on the root. -/
def sapling : Settings Nat := { start := .text "F", iterations := .int 0, parent := some 0 }

theorem rooted_ready (kept : Float32 → Float32) :
    (Document.readable kept).Ready sapling rooted := by
  have root : (Document.readable kept).Shows rooted.document 0 := ⟨_, rfl⟩
  refine ⟨fun id sight parent looks above => ?_, fun _ none => absurd none nofun,
    fun _ none => absurd none nofun, fun id same => ?_, fun _ none => absurd none nofun⟩
  · rcases Document.look_eq_some.mp looks with ⟨object, found, -, rfl⟩
    cases id with
    | zero =>
      cases found
      cases above
    | succ id => cases found
  · cases same
    exact root

/-- A new tree of one segment has one object on an empty stage. -/
theorem sapling_on_stage (settings : Settings Value) (starts : settings.start = .text "F")
    (counts : settings.iterations = .int (0 : Nat)) :
    (Plot.afterAll (Theatre.scene 0) [.regenerate none none] ⟨.ofStages 1, #[],
      { settings := settings, jitter := Jitter.constant (.real 0) }⟩).tree.branches = [0] := by
  have matched : Brackets.Matched ['F'] := by decide
  have enough := Jitter.constant_supplies (rfl : Jitter.summand (.real 0) = _) (['F'].count 'F')
  rcases interpret_of_matched (C := Float32) matched enough with ⟨turtle, left, walked⟩
  have sound : (Theatre.ofStages 1).Sound 0 := Theatre.ofStages_sound Nat.one_pos
  have holding : Holding [] ((Theatre.ledger 0).live (.ofStages 1)) :=
    ⟨List.nodup_nil, fun _ member => absurd member List.not_mem_nil⟩
  have valid : (settings.overridden none none).validate = .ok _ :=
    Settings.validate_of_text starts counts (Nat.zero_le _)
  have text : "F".toList = ['F'] := by decide
  simp only [text] at valid
  rcases Plot.regenerate_ended (Theatre.scene 0) none none
      ⟨.ofStages 1, #[], { settings := settings, jitter := Jitter.constant (.real 0) }⟩ with
      ⟨warnings, failure, final, regeneration, performs, run⟩
  rcases regeneration.displayed valid walked sound holding performs with ⟨-, displayed⟩
  have last : (Plot.serve (Theatre.scene 0) (.regenerate none none)).reached
      ⟨.ofStages 1, #[], { settings := settings, jitter := Jitter.constant (.real 0) }⟩ = final :=
    Act.reached_of_settled run
  rcases displayed.walk with ⟨turtle, walked, points⟩
  have among := displayed.descriptors
  rw [points] at among
  have single : final.tree.descriptors.length = 1 := by
    rw [(sizes_of_walk walked among).2, displayed.expanded, Rules.Table.expand_zero]
    decide
  change Tree.branches (Plot.tree (Act.reached _ _)) = _
  rw [last, displayed.branches, single]
  rfl

/-- If one object stands for the tree on the stage, one stands for it in the document. -/
theorem LookAlike.of_single {readable : modeller.Readable kept} {alike : H → Nat → Prop}
    {planted : Plot (Workshop δ H) H R J} {staged : Plot Theatre Nat Value J} {other : Nat}
    (looks : LookAlike readable base alike planted staged)
    (single : staged.tree.branches = [other]) :
    ∃ handle, planted.tree.branches = [handle] ∧ alike handle other := by
  have objects := looks.objects
  rw [single] at objects
  rcases List.forall₂_cons_right_iff.mp objects with ⟨handle, rest, paired, none, branches⟩
  rw [List.forall₂_nil_right_iff.mp none] at branches
  exact ⟨handle, branches, paired⟩

/-- The tree of one branch has one object in the document, under the root, and one on a stage. -/
theorem sapling_looks_alike : ∃ planted staged,
    Plot.afterAll (Document.modeller id).scene [.regenerate none none]
      ⟨rooted, #[],
        { settings := sapling.map (Document.modeller id).object,
          jitter := Jitter.constant (.real 0) }⟩ = planted ∧
    Plot.afterAll (Theatre.scene 0) [.regenerate none none]
      ⟨.ofStages 1, #[],
        { settings := sapling.map fun _ => .text "root",
          jitter := Jitter.constant (.real 0) }⟩ = staged ∧
    staged.tree.branches = [0] ∧
    ∃ handle sight item, planted.tree.branches = [handle] ∧
      (Document.readable id).look planted.scene.document handle = some sight ∧
      staged.scene.items[0]? = some item ∧
      Counterparts sapling (fun _ => .text "root") sight item := by
  have sound : (Theatre.ofStages 1).Sound 0 := Theatre.ofStages_sound Nat.one_pos
  have alike := (trees_look_alike (rooted_ready id) sound (fun _ => .text "root")
    (Jitter.constant (.real 0)) #[] #[] [.regenerate none none]).2
  have single := sapling_on_stage (sapling.map fun _ => .text "root") rfl rfl
  rcases alike.of_single single with ⟨handle, branches, sight, item, shows, there, counterparts⟩
  exact ⟨_, _, rfl, rfl, single, handle, sight, item, branches, shows, there, counterparts⟩

end Modeller
end Arbor
