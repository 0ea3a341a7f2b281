/-
# What a response lists

An identifier stands for the first package that carries it (`named?`), and a package leads to the
packages it imports (`Imports`), in the order of the paths of the imports (`followed`). The response
with some roots lists the packages that the roots lead to, each once and each the first of its
identifier, in the order of a recursive depth-first search. So a response is closed: every root and
every import of a listed package is listed, too, unless no package carries it. The go tool names as
roots only packages that it lists, and so each root names exactly one package of its answer.
-/

import Mathlib.Data.List.Nodup
import PackageListing.GoTool
import PackageListing.Proofs.Action
import PackageListing.Proofs.Names.Map
import PackageListing.Proofs.Traversal.DepthFirst

namespace PackageListing
namespace ImportGraph

/-- The package that an identifier stands for. -/
def named? (packages : List Package) (id : String) : Option Package :=
  packages.find? fun p => p.id == id

/-- The package behind `a` imports `b`, under some path. -/
def Imports (packages : List Package) (a b : String) : Prop :=
  ∃ p, named? packages a = some p ∧ ∃ path, p.imports.get? path = some b

/-- What the imports of a package lead to, in the order of their paths. -/
def followed (p : Package) : List String :=
  p.imports.entries.map Prod.snd

/-- The table in which a response looks packages up. -/
def table (packages : List Package) : List (String × Package) :=
  packages.map fun p => (p.id, p)

theorem lookup_table (packages : List Package) (id : String) :
    (table packages).lookup id = named? packages id := by
  induction packages with
  | nil => rfl
  | cons p packages ih =>
    rw [table, named?] at ih ⊢
    rw [List.map_cons, List.lookup_cons, List.find?_cons, ih, BEq.comm]

theorem id_of_named? {packages : List Package} {id : String} {p : Package}
    (h : named? packages id = some p) : p.id = id := by
  rw [named?] at h
  have hid := List.find?_some h
  exact eq_of_beq hid

theorem exists_named?_iff {packages : List Package} {id : String} :
    (∃ p, named? packages id = some p) ↔ ∃ p ∈ packages, p.id = id := by
  rw [← Option.isSome_iff_exists, named?, List.find?_isSome]
  simp only [beq_iff_eq]

theorem imported_eq_followed : imported = followed := rfl

theorem mem_imported_iff {p : Package} {id : String} :
    id ∈ imported p ↔ ∃ path, p.imports.get? path = some id :=
  Names.Map.mem_values_iff

theorem leads_iff {packages : List Package} {a b : String} :
    Traversal.Leads imported (table packages) a b ↔
      Relation.ReflTransGen (Imports packages) a b := by
  have hedge : Traversal.Edge imported (table packages) = Imports packages := by
    funext a b
    simp only [Traversal.Edge, Imports, lookup_table, mem_imported_iff]
  rw [Traversal.Leads, hedge]

theorem mem_reachable_iff {roots : List String} {packages : List Package} {p : Package} :
    p ∈ reachable roots packages ↔ ∃ root ∈ roots, ∃ id,
      Relation.ReflTransGen (Imports packages) root id ∧ named? packages id = some p := by
  show p ∈ Traversal.preorder imported (table packages) roots ↔ _
  rw [Traversal.mem_preorder_iff, Traversal.Met]
  simp only [leads_iff, lookup_table]

theorem named?_of_mem_reachable {roots : List String} {packages : List Package} {p : Package}
    (h : p ∈ reachable roots packages) : named? packages p.id = some p := by
  obtain ⟨_, _, id, _, hp⟩ := mem_reachable_iff.1 h
  rw [id_of_named? hp, hp]

theorem mem_ids_reachable_iff {roots : List String} {packages : List Package} {id : String} :
    id ∈ (reachable roots packages).map (·.id) ↔
      (∃ p ∈ packages, p.id = id) ∧
        ∃ root ∈ roots, Relation.ReflTransGen (Imports packages) root id := by
  rw [← exists_named?_iff, List.mem_map]
  constructor
  · rintro ⟨p, hp, rfl⟩
    obtain ⟨root, hroot, id, hway, hid⟩ := mem_reachable_iff.1 hp
    rw [id_of_named? hid]
    exact ⟨⟨p, hid⟩, root, hroot, hway⟩
  · rintro ⟨⟨p, hp⟩, root, hroot, hway⟩
    exact ⟨p, mem_reachable_iff.2 ⟨root, hroot, id, hway, hp⟩, id_of_named? hp⟩

/-- The packages that a recursive depth-first search from the roots meets, in their order. -/
def searched (roots : List String) (packages : List Package) : List Package :=
  (Traversal.search followed (table packages) [] roots).map Prod.snd

theorem reachable_eq_searched (roots : List String) (packages : List Package) :
    reachable roots packages = searched roots packages := by
  rw [searched, ← imported_eq_followed]
  exact Traversal.preorder_eq_search roots

theorem nodup_ids_reachable (roots : List String) (packages : List Package) :
    ((reachable roots packages).map (·.id)).Nodup := by
  have hids : (searched roots packages).map (·.id) =
      (Traversal.search followed (table packages) [] roots).map Prod.fst := by
    rw [searched, List.map_map]
    refine List.map_congr_left fun e he => ?_
    have hlookup := (Traversal.lookup_of_mem_search he).2
    rw [lookup_table] at hlookup
    exact id_of_named? hlookup
  rw [reachable_eq_searched, hids]
  exact Traversal.nodup_search [] roots

/-- A response is closed under its roots and its imports. -/
theorem mem_ids_reachable_of_listed {roots : List String} {packages : List Package} {id : String}
    (hid : id ∈ roots ∨ ∃ p ∈ reachable roots packages, ∃ path, p.imports.get? path = some id)
    (hlisted : ∃ p ∈ packages, p.id = id) : id ∈ (reachable roots packages).map (·.id) := by
  refine mem_ids_reachable_iff.2 ⟨hlisted, ?_⟩
  rcases hid with hroot | ⟨p, hp, himport⟩
  · exact ⟨id, hroot, Relation.ReflTransGen.refl⟩
  · obtain ⟨root, hroot, a, hway, ha⟩ := mem_reachable_iff.1 hp
    exact ⟨root, hroot, hway.tail ⟨p, ha, himport⟩⟩

end ImportGraph

namespace GoTool

/-- The roots of the answer are listed packages. -/
theorem exists_of_mem_roots {listed : List ListedPackage} {root : String}
    (h : root ∈ (respond listed).roots) :
    ∃ p ∈ listed.map (·.toPackage ""), p.id = root := by
  simp only [respond, ImportGraph.respond, List.mem_map, List.mem_filter] at h
  obtain ⟨_, ⟨⟨l, hl, rfl⟩, _⟩, rfl⟩ := h
  exact ⟨l.toPackage "", List.mem_map_of_mem hl, rfl⟩

/-- Each root of the answer is the identifier of exactly one of its packages. -/
theorem count_root_respond {listed : List ListedPackage} {root : String}
    (h : root ∈ (respond listed).roots) :
    ((respond listed).packages.map (·.id)).count root = 1 := by
  refine List.count_eq_one_of_mem (ImportGraph.nodup_ids_reachable _ _) ?_
  refine ImportGraph.mem_ids_reachable_of_listed (Or.inl h) ?_
  rw [List.map_map]
  exact exists_of_mem_roots h

theorem eq_respond_of_answer {tool : GoTool} {facets : Build.Facets}
    {buildFlags patterns : List String} {m m' : Machine} {r : Response}
    (h : tool.answer facets buildFlags patterns m = (.ok r, m')) :
    ∃ listed, r = respond listed := by
  obtain ⟨listed, _, _, hr⟩ := Action.bind_eq_ok.1 h
  cases hr
  exact ⟨listed, rfl⟩

end GoTool

namespace ImportGraph

/-- **What a response lists.** Its roots are the given ones. Its packages have distinct
identifiers, each is the first given package with its identifier, and they are those that are
listed and to which a root leads through listed packages, in the order of a recursive depth-first
search. The search goes through the imports of a package by increasing paths, and past none of them.
A listed import of one of the packages, and a listed root, is among them. And when the go tool
answers, every root names exactly one package. -/
theorem respond_lists (roots : List String) (packages : List Package) :
    (respond roots packages).roots = roots ∧
      ((respond roots packages).packages.map (·.id)).Nodup ∧
      (∀ p ∈ (respond roots packages).packages, named? packages p.id = some p) ∧
      (∀ id, id ∈ (respond roots packages).packages.map (·.id) ↔
        (∃ p ∈ packages, p.id = id) ∧
          ∃ root ∈ roots, Relation.ReflTransGen (Imports packages) root id) ∧
      (respond roots packages).packages = searched roots packages ∧
      (∀ p, ∃ paths : List String, paths.Pairwise (· < ·) ∧
        (∀ path, path ∈ paths ↔ ∃ id, p.imports.get? path = some id) ∧
        (followed p).map some = paths.map p.imports.get?) ∧
      (∀ id, (id ∈ roots ∨ ∃ p ∈ (respond roots packages).packages,
          ∃ path, p.imports.get? path = some id) →
        (∃ p ∈ packages, p.id = id) → id ∈ (respond roots packages).packages.map (·.id)) ∧
      ∀ (tool : GoTool) (facets : Build.Facets) (buildFlags patterns : List String)
        (m m' : Machine) (r : Response),
        tool.answer facets buildFlags patterns m = (.ok r, m') →
          ∀ root ∈ r.roots, (r.packages.map (·.id)).count root = 1 := by
  refine ⟨rfl, nodup_ids_reachable roots packages, fun p hp => named?_of_mem_reachable hp,
    fun id => mem_ids_reachable_iff, reachable_eq_searched roots packages,
    fun p => p.imports.exists_keys_of_values,
    fun id hid hlisted => mem_ids_reachable_of_listed hid hlisted, ?_⟩
  intro tool facets buildFlags patterns m m' r h root hroot
  obtain ⟨listed, rfl⟩ := GoTool.eq_respond_of_answer h
  exact GoTool.count_root_respond hroot

/-! ### Imports in a circle -/

/-- A package with some imports. -/
def importing (id name : String) (imports : List (String × String)) : Package :=
  { (default : Package) with id := id, name := name, imports := .ofList imports }

/-- Two packages that import each other. The first also imports itself and one that is not listed,
and it is listed twice. -/
def circle : List Package :=
  [importing "a" "first" [("y", "b"), ("x", "a"), ("z", "none")], importing "b" "b" [("x", "a")],
    importing "a" "second" []]

/-- Each of them is met once, past a root that is not listed. -/
theorem respond_lists_circle :
    (respond ["none", "b", "a"] circle).packages.map (fun p => (p.id, p.name)) =
      [("b", "b"), ("a", "first")] := by
  obtain ⟨-, -, -, -, hsearched, -⟩ := respond_lists ["none", "b", "a"] circle
  have hfirst : followed (importing "a" "first" [("y", "b"), ("x", "a"), ("z", "none")]) =
      ["a", "b", "none"] := by decide
  have hb : followed (importing "b" "b" [("x", "a")]) = ["a"] := by decide
  have hnone : (table circle).lookup "none" = none := by decide
  -- What the search does at the package that leads back: all of it was seen or is not there.
  have hinner : Traversal.search followed (table circle) ["b"] ["a"] =
      [("a", importing "a" "first" [("y", "b"), ("x", "a"), ("z", "none")])] := by
    rw [Traversal.search_of_lookup_eq_some [] (by decide) rfl, hfirst,
      Traversal.search_of_mem _ (by decide), Traversal.search_of_mem _ (by decide),
      Traversal.search_of_lookup_eq_none _ _ hnone, Traversal.search_nil, Traversal.search_nil]
    rfl
  rw [hsearched, searched, Traversal.search_of_lookup_eq_none _ _ hnone,
    Traversal.search_of_lookup_eq_some ["a"] (by decide) rfl, hb, hinner,
    Traversal.search_of_mem _ (by decide), Traversal.search_nil]
  rfl

end ImportGraph
end PackageListing
