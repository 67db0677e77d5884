/-
Module: NginxFleet.Controller.Watch
Layer: Controller
Purpose: What the operator watches: the instances and the objects built for them, in one namespace or
  in all; and the instances that it is told of when it starts to watch.
Main exports: Config.watchedPaths, Config.listedNginxes
-/
import NginxFleet.Client.Call
import NginxFleet.Config.Basic
import NginxFleet.Object.Document
import NginxFleet.Object.Place

namespace NginxFleet

open Json

namespace Config

/-- The path under which a collection is watched, if it can be asked for. -/
def watchedPath? {α : Type} (config : Config) (collection : Collection α) : Option String :=
  let path := Collection.pathOf collection.root collection.plural config.watchNamespace
  (Target.ofText (path ++ "?")).toOption.map Target.path

/-- The paths that are watched, in ascending order. -/
def watchedPaths (config : Config) : List String :=
  ([config.watchedPath? .services, config.watchedPath? .deployments,
    config.watchedPath? .nginxes].filterMap id).mergeSort

/-- The documents of a list that a path asks for: those in its namespace, if it has one. -/
def listedUnder (path : String) (documents : List Json) : List Json :=
  match Place.namespaceOf? path with
  | some namespaceName =>
    documents.filter fun document => metadataText? "namespace" document = some namespaceName
  | none => documents

/-- The instances that the operator is told of when it starts to watch, none if one cannot be read. -/
def listedNginxes (config : Config) (documents : List Json) : List Nginx :=
  match config.watchedPath? .nginxes with
  | some path => (readAll Nginx.ofJson? (listedUnder path documents)).getD []
  | none => []

end Config

end NginxFleet
