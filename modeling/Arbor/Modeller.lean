import Arbor.Scene

/-!
# Modellers

A modeller is a program in which documents of objects are made.  An object can show a mesh, is
listed in homes, and lies somewhere under its parent.  `Modeller` names what a renderer of trees
asks of such a program, as actions on the document; what comes of them is up to the modeller.  `H`
is the type of the handles by which it names objects, and `R` that of whatever may be used as an
object, which need not be one.
-/

namespace Arbor

open Space

/-- What can be done in the documents of a modeller.  Any of it may fail, before or after it has had
an effect. -/
structure Modeller (δ H R : Type) where
  /-- Where objects are listed. -/
  Home : Type
  /-- What objects show. -/
  Mesh : Type
  /-- An object, to be used as one. -/
  object : H → R
  /-- The written form of what is used as an object. -/
  written : δ → R → String
  /-- Add an empty mesh. -/
  addMesh (name : String) : Act δ Mesh
  /-- Give a mesh the shape of a branch: a closed cylinder of so many segments round the second
  axis, of radius one and height two, centred on its origin. -/
  shapeMesh (mesh : Mesh) (segments : Nat) : Act δ Unit
  /-- Add an object. -/
  addObject (name : String) (mesh : Option Mesh) : Act δ H
  /-- Copy an object. -/
  copy (reference : R) : Act δ H
  /-- The homes in which an object is listed. -/
  homes (reference : R) : Act δ (List Home)
  /-- The home in which new objects are listed. -/
  activeHome : Act δ Home
  /-- List an object in a home. -/
  link (home : Home) (handle : H) : Act δ Unit
  /-- Put an object under a parent, or under none. -/
  setParent (child : R) (parent : Option R) : Act δ Unit
  /-- Place an object. -/
  setLocation (reference : R) (components : List Float32) : Act δ Unit
  /-- Say in which order an object is turned about the axes. -/
  setOrder (reference : R) (order : AxisOrder) : Act δ Unit
  /-- Turn an object. -/
  setRotation (reference : R) (components : List Float32) : Act δ Unit
  /-- Scale an object. -/
  setScale (reference : R) (components : List Float32) : Act δ Unit
  /-- Remove an object. -/
  remove (reference : R) : Act δ Unit

end Arbor
