import Tenancy.Database.Insert

/-!
# The catalogue of menus

The menus and routes of a system that has none: one menu on the first level and four below it, each
with its routes.
-/

namespace Tenancy

/-- A menu of the catalogue with its routes. -/
structure CatalogueMenu where
  name : String
  orderIndex : Int
  routes : List (String × String) := []

/-- The menu on the first level. -/
def catalogueRoot : CatalogueMenu :=
  { name := "system", orderIndex := 10 }

/-- The menus below it. -/
def catalogue : List CatalogueMenu := [
    { name := "accounts", orderIndex := 10
      routes :=
        [("/api/accounts", "GET"), ("/api/accounts", "POST"), ("/api/accounts/:id", "GET")] },
    { name := "roles", orderIndex := 20
      routes := [("/api/roles", "GET"), ("/api/roles", "POST"), ("/api/roles/:id/detail", "GET")] },
    { name := "organizations", orderIndex := 30
      routes := [("/api/organizations", "POST"), ("/api/organizations/:id", "GET")] },
    { name := "operation logs", orderIndex := 40
      routes := [("/api/operation-logs", "GET")] }]

/-- The number of routes of the catalogue. -/
def catalogueRoutes : Nat :=
  (catalogue.flatMap (·.routes)).length

namespace Database

/-- Adds a menu of the catalogue below `parent`, and its routes. -/
def addCatalogueMenu (parent : Menu) (db : Database) (entry : CatalogueMenu) :
    Except Fault Database := do
  let (db, menu) ← db.insertMenu
    { name := entry.name, parentId := parent.id, parentName := parent.name
      orderIndex := entry.orderIndex }
  entry.routes.foldlM (fun db (name, method) => do
    let (db, _) ← db.insertRoute { name, method, menuId := menu.id, menuName := menu.name }
    return db) db

/-- Fills the tables of menus and routes. -/
def seed (db : Database) : Except Fault Database := do
  let (db, root) ← db.insertMenu
    { name := catalogueRoot.name, orderIndex := catalogueRoot.orderIndex }
  catalogue.foldlM (addCatalogueMenu root) db

end Database

end Tenancy
