import DisplayLayout.Compile
import DisplayLayout.Proofs.Artifact.Emitted

/-!
# Nodes of a page tree

The document of a page tree holds the node of every widget that the retained
mode supports, and no others (`PageTree.mem_nodes_compile`). What is asked of
the nodes is asked of the objects in them, at any depth (`Json.objects`).
-/

namespace DisplayLayout

/-! ## Objects in a tree -/

namespace Json

mutual

/-- The entries of every object in a tree, those of an outer object first. -/
def objects : Json → List (List (String × Json))
  | .object entries => entries :: entryObjects entries
  | .array items => itemObjects items
  | _ => []

/-- The same for the values of entries. -/
def entryObjects : List (String × Json) → List (List (String × Json))
  | [] => []
  | (_, value) :: rest => objects value ++ entryObjects rest

/-- The same for items. -/
def itemObjects : List Json → List (List (String × Json))
  | [] => []
  | item :: rest => objects item ++ itemObjects rest

end

theorem entryObjects_eq (entries : List (String × Json)) :
    entryObjects entries = entries.flatMap fun e => objects e.2 := by
  induction entries with
  | nil => rfl
  | cons e entries ih =>
    obtain ⟨key, value⟩ := e
    rw [entryObjects, ih, List.flatMap_cons]

theorem itemObjects_eq (items : List Json) : itemObjects items = items.flatMap objects := by
  induction items with
  | nil => rfl
  | cons item items ih => rw [itemObjects, ih, List.flatMap_cons]

/-- An object holds itself and what its values hold. -/
theorem objects_object (entries : List (String × Json)) :
    objects (.object entries) = entries :: entries.flatMap fun e => objects e.2 := by
  rw [objects, entryObjects_eq]

theorem objects_array (items : List Json) : objects (.array items) = items.flatMap objects := by
  rw [objects, itemObjects_eq]

end Json

/-! ## The nodes of a document -/

namespace PageTree

/-- The nodes below the pages of a document. -/
def nodes (document : Json) : List Json :=
  let pages := ((document.get? "lvgl").bind (Json.get? "pages")).bind Json.items?
  (pages.getD []).flatMap fun page => ((page.get? "widgets").bind Json.items?).getD []

theorem nodes_write (d : Declared) (g : Generation) (pages : List (VisitedPage MarkedNode)) :
    nodes (write d g pages).2 = pages.flatMap fun page => page.contents.map MarkedNode.node := by
  have hnodes : nodes (write d g pages).2 = (pages.mapIdx pageDocument).flatMap fun page =>
      ((page.get? "widgets").bind Json.items?).getD [] := rfl
  have hwidgets : ∀ (i : Nat) (page : VisitedPage MarkedNode),
      (((pageDocument i page).get? "widgets").bind Json.items?).getD []
        = page.contents.map MarkedNode.node := fun _ _ => rfl
  rw [hnodes, List.flatMap_def, List.flatMap_def]
  congr 1
  exact List.ext_getElem (by simp) fun i _ _ => by simp [hwidgets]

/-- The node of a widget, a placeholder if it shows none. -/
def nodeOf (b : Behaviour) (s : Surface) (w : Widget) : Json :=
  (b.retained (w.view b) s).node.getD (placeholder (w.view b))

/-- **The nodes of a document are those of the widgets that the retained mode supports.** -/
theorem mem_nodes_compile [Qr.Encoder] {p : Project} {config : Config}
    (hmode : config.mode = .retained) {node : Json} :
    node ∈ nodes (p.compile config).artifact.document
      ↔ ∃ page ∈ p.pages, ∃ w ∈ page.widgets, ∃ b ∈ w.behaviourIn? .retained,
          node = nodeOf b ⟨config.device, page.theme.isDark p.dark⟩ w := by
  have hcompile : p.compile config = .withDeclarations p config form write := by
    rw [Project.compile, hmode]
  have hdocument : (p.compile config).artifact.document
      = (write (p.declare config.mode config.device) (registries config (p.visit form config))
          (p.visit form config)).2 := by
    rw [hcompile]
    rfl
  rw [hdocument, nodes_write, Project.visit, List.flatMap_map, List.mem_flatMap]
  refine exists_congr fun page => and_congr_right fun _ => ?_
  rw [VisitedPage.contents, VisitedPage.emissions_ofPage, List.map_map, List.mem_map]
  simp only [List.mem_filterMap, Option.map_eq_some_iff, hmode, Function.comp_apply]
  constructor
  · rintro ⟨e, ⟨w, hw, b, hb, rfl⟩, rfl⟩
    exact ⟨w, hw, b, hb, rfl⟩
  · rintro ⟨w, hw, b, hb, rfl⟩
    exact ⟨_, ⟨w, hw, b, hb, rfl⟩, rfl⟩

end PageTree

end DisplayLayout
