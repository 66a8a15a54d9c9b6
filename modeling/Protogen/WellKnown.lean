import Protogen.Descriptor.Basic

/-!
# Well-known files

Every dataset type may refer to durations and timestamps and to the shared types
of datasets. The three files that define them never change, so they are part of
the program, and a request consists of them followed by the file of the dataset.
-/

namespace Protogen

namespace WellKnown

open Descriptor

def durationFile : String := "google/protobuf/duration.proto"

def timestampFile : String := "google/protobuf/timestamp.proto"

def sharedTypesFile : String := "datasets/v1/well_known_types.proto"

def sharedTypesPackage : String := "datasets.v1"

def plainMessage (name : String) (fields : List FieldDescriptor) : MessageDescriptor :=
  ⟨{ MessageBody.blank with name? := some name, fields := fields }, []⟩

def plainField (name : String) (number : Int32) (type : Scalar) : FieldDescriptor :=
  { FieldDescriptor.blank with
    name? := some name
    number? := some number
    label? := some Label.optional.toNumber
    type? := some (DeclaredType.scalar type).toNumber
    jsonName? := some name }

/-- Fields of type double, numbered from the given number on. -/
def doubleFields : Int32 → List String → List FieldDescriptor
  | _, [] => []
  | number, name :: names => plainField name number .double :: doubleFields (number + 1) names

def enumValues : Int32 → List String → List EnumValueDescriptor
  | _, [] => []
  | number, name :: names => ⟨some name, some number, none⟩ :: enumValues (number + 1) names

/-- An enumeration whose value zero is unspecified; `start` begins every name. -/
def plainEnum (name start : String) (values : List String) : EnumDescriptor :=
  ⟨some name, enumValues 0 (("UNSPECIFIED" :: values).map fun v => start ++ "_" ++ v), none, [], []⟩

/-- Durations and timestamps have the same shape: seconds and nanoseconds. -/
def timeFile (name message goPackage : String) : FileDescriptor :=
  { FileDescriptor.blank with
    name? := some name
    package? := some "google.protobuf"
    messages := [plainMessage message [plainField "seconds" 1 .int64, plainField "nanos" 2 .int32]]
    options? := some { FileOptions.blank with
      javaPackage? := some "com.google.protobuf"
      goPackage? := some ("google.golang.org/protobuf/types/known/" ++ goPackage) }
    syntaxName? := some "proto3" }

def duration : FileDescriptor := timeFile durationFile "Duration" "durationpb"

def timestamp : FileDescriptor := timeFile timestampFile "Timestamp" "timestamppb"

def sharedTypes : FileDescriptor :=
  { FileDescriptor.blank with
    name? := some sharedTypesFile
    package? := some sharedTypesPackage
    messages :=
      [plainMessage "UUID" [plainField "uuid" 1 .bytes],
       plainMessage "Vec3" (doubleFields 1 ["x", "y", "z"]),
       plainMessage "Quaternion" (doubleFields 1 ["q1", "q2", "q3", "q4"]),
       plainMessage "LatLon" (doubleFields 1 ["latitude", "longitude"]),
       plainMessage "LatLonAlt" (doubleFields 1 ["latitude", "longitude", "altitude"]),
       plainMessage "Geometry" [plainField "wkb" 1 .bytes]]
    enums :=
      [plainEnum "ProcessingLevel" "PROCESSING_LEVEL"
        ["L0", "L1", "L1A", "L1B", "L1C", "L2", "L2A", "L2B", "L3", "L3A", "L4", "NOT_APPLICABLE"],
       plainEnum "Polarization" "POLARIZATION"
        ["HH", "HV", "VH", "VV", "DUAL_HH", "DUAL_HV", "DUAL_VH", "DUAL_VV", "HH_HV", "VV_VH"],
       plainEnum "AcquisitionMode" "ACQUISITION_MODE"
        ["SM", "EW", "IW", "WV", "SPOTLIGHT", "NOBS", "EXTC", "DARK", "CALIBRATION"],
       plainEnum "FlightDirection" "FLIGHT_DIRECTION" ["ASCENDING", "DESCENDING"],
       plainEnum "ObservationDirection" "OBSERVATION_DIRECTION" ["LEFT", "RIGHT"],
       plainEnum "OpendataProvider" "OPENDATA_PROVIDER" ["ASF", "COPERNICUS_DATASPACE", "UMBRA"]]
    options? := some { FileOptions.blank with
      goPackage? := some "github.com/tilebox/tilebox-go/protogen/go/datasets/v1;datasetsv1" }
    syntaxName? := some "proto3" }

/-- The files of a request for `file`. -/
def assemble (file : FileDescriptor) : List FileDescriptor :=
  [duration, timestamp, sharedTypes, file]

end WellKnown

end Protogen
