import TextTemplate.Error.Basic
import TextTemplate.Template.Node

/-!
# Programs

A program is a compiled template. Its blocks are listed by title in the order in which they stand in
the document; the first of a title is the place where the block renders, the last one is the most
derived definition.

Compiling draws fresh numbers for blocks, cycles and programs from a `Memory`, which also holds the
programs that a loader keeps.
-/

namespace TextTemplate

structure Block where
  id : Nat
  title : String
  body : List Node

structure Program where
  /-- Tells this program from all others. -/
  serial : Nat
  name : Option String
  source : String
  root : List Node
  blocks : NameMap (List Block)

mutual

/-- The blocks of a node in document order: a block comes before those inside of it. -/
def Node.blocks : Node → List Block
  | .block id title body => ⟨id, title, body⟩ :: blocksOf body
  | .loop _ _ _ body fallback => blocksOf body ++ blocksOf fallback
  | .branch _ yes no => blocksOf yes ++ blocksOf no
  | .splice body => blocksOf body
  | .spaceless body => blocksOf body
  | .trim body => blocksOf body
  | .bind _ _ body => blocksOf body
  | .text _ | .print .. | .emptyMark | .elifMark _ | .elseMark | .cycle .. | .includeBy _ => []

/-- The blocks of a list of nodes in document order. -/
def blocksOf : List Node → List Block
  | [] => []
  | node :: rest => node.blocks ++ blocksOf rest

end

/-- Adds a block behind the others of its title. -/
def registerBlock (registry : NameMap (List Block)) (block : Block) : NameMap (List Block) :=
  registry.insert block.title ((registry.find? block.title).getD [] ++ [block])

/-- The blocks of a template by title. -/
def registryOf (root : List Node) : NameMap (List Block) := (blocksOf root).foldl registerBlock []

/-! ## Memory -/

/-- A program that a loader keeps. -/
structure CacheEntry where
  /-- The modification time of the file that the program was compiled from, if it matters. -/
  modified : Option Int
  program : Program

/-- What outlives a single compilation or render. -/
structure Memory where
  /-- All numbers from here on are unused. -/
  nextId : Nat
  /-- The programs that the loader keeps, by name. -/
  cache : NameMap CacheEntry

def Memory.initial : Memory := ⟨0, []⟩

/-- A computation that uses the memory and may fail. What it has put into the memory stays there
also when it fails. -/
abbrev MemoryM (α : Type) := ExceptT Error (StateM Memory) α

/-- Draws an unused number. -/
def freshId : MemoryM Nat := fun m => (.ok m.nextId, { m with nextId := m.nextId + 1 })

end TextTemplate
