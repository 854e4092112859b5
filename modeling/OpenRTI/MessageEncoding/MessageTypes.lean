import OpenRTI.MessageEncoding.DataTypes

/-!
# The messages

The types of the fields of the messages, the messages, and the numbers by which they are
told apart in a stream.
-/

namespace OpenRTI
namespace MessageEncoding

open DataStream

/-! ## Scalars -/

def string : ScalarType := .string

def unsigned : ScalarType := .unsigned .uint32

def federationHandle : ScalarType := .handle .uint16

def moduleHandle : ScalarType := .handle .uint16

def attributeHandle : ScalarType := .handle .uint32

def dimensionHandle : ScalarType := .handle .uint32

def updateRateHandle : ScalarType := .handle .uint32

def basicDataTypeHandle : ScalarType := .handle .uint32

def simpleDataTypeHandle : ScalarType := .handle .uint32

def enumeratedDataTypeHandle : ScalarType := .handle .uint32

def arrayDataTypeHandle : ScalarType := .handle .uint32

def fixedRecordDataTypeHandle : ScalarType := .handle .uint32

def variantRecordDataTypeHandle : ScalarType := .handle .uint32

def objectClassHandle : ScalarType := .handle .uint32

def objectInstanceHandle : ScalarType := .handle .uint32

def interactionClassHandle : ScalarType := .handle .uint32

def parameterHandle : ScalarType := .handle .uint32

def federateHandle : ScalarType := .handle .uint32

def spaceHandle : ScalarType := .handle .uint32

def messageRetractionHandle : ScalarType := .handle .uint64

def regionHandle : ScalarType := .handle .uint64

/-! ## Enumerations -/

def orderType : DataType :=
  .enum "RECEIVE" ["TIMESTAMP"] (by decide)

def transportationType : DataType :=
  .enum "RELIABLE" ["BEST_EFFORT"] (by decide)

def subscriptionType : DataType :=
  .enum "Unsubscribed"
    ["SubscribedPassive", "SubscribedActive"]
    (by decide)

def publicationType : DataType :=
  .enum "Unpublished" ["Published"] (by decide)

def resignAction : DataType :=
  .enum "UNCONDITIONALLY_DIVEST_ATTRIBUTES"
    ["DELETE_OBJECTS", "CANCEL_PENDING_OWNERSHIP_ACQUISITIONS",
     "DELETE_OBJECTS_THEN_DIVEST", "CANCEL_THEN_DELETE_THEN_DIVEST", "NO_ACTION"]
    (by decide)

def lowerBoundTimeStampCommitType : DataType :=
  .enum "TimeAdvanceCommit"
    ["NextMessageCommit", "TimeAdvanceAndNextMessageCommit"]
    (by decide)

def switchesType : DataType :=
  .enum "InteractionRelevanceAdvisorySwitchesType"
    ["ObjectClassRelevanceAdvisorySwitchesType",
     "AttributeRelevanceAdvisorySwitchesType", "AttributeScopeAdvisorySwitchesType",
     "AutoProvideSwitchesType", "ConveyRegionDesignatorSetsSwitchesType",
     "ServiceReportingSwitchesType"]
    (by decide)

def arrayDataTypeEncoding : DataType :=
  .enum "FixedArrayDataTypeEncoding" ["VariableArrayDataTypeEncoding"] (by decide)

def endianness : DataType :=
  .enum "BigEndian" ["LittleEndian"] (by decide)

def createFederationExecutionResponseType : DataType :=
  .enum "CreateFederationExecutionResponseSuccess"
    ["CreateFederationExecutionResponseFederationExecutionAlreadyExists",
     "CreateFederationExecutionResponseCouldNotOpenFDD",
     "CreateFederationExecutionResponseErrorReadingFDD",
     "CreateFederationExecutionResponseCouldNotCreateLogicalTimeFactory",
     "CreateFederationExecutionResponseInconsistentFDD",
     "CreateFederationExecutionResponseRTIinternalError",
     "CreateFederationExecutionResponseTimeout"]
    (by decide)

def destroyFederationExecutionResponseType : DataType :=
  .enum "DestroyFederationExecutionResponseSuccess"
    ["DestroyFederationExecutionResponseFederatesCurrentlyJoined",
     "DestroyFederationExecutionResponseFederationExecutionDoesNotExist",
     "DestroyFederationExecutionResponseRTIinternalError"]
    (by decide)

def joinFederationExecutionResponseType : DataType :=
  .enum "JoinFederationExecutionResponseSuccess"
    ["JoinFederationExecutionResponseFederateNameAlreadyInUse",
     "JoinFederationExecutionResponseFederationExecutionDoesNotExist",
     "JoinFederationExecutionResponseSaveInProgress",
     "JoinFederationExecutionResponseRestoreInProgress",
     "JoinFederationExecutionResponseInconsistentFDD",
     "JoinFederationExecutionResponseTimeout"]
    (by decide)

def registerFederationSynchronizationPointResponseType : DataType :=
  .enum "RegisterFederationSynchronizationPointResponseSuccess"
    ["RegisterFederationSynchronizationPointResponseLabelNotUnique",
     "RegisterFederationSynchronizationPointResponseMemberNotJoined"]
    (by decide)

/-! ## Types of the messages -/

def attributeHandleVector : DataType := .vector (attributeHandle)

def federateHandleVector : DataType := .vector (federateHandle)

def dimensionHandleSet : DataType := .set dimensionHandle

def objectInstanceHandleVector : DataType := .vector (objectInstanceHandle)

def regionHandleVector : DataType := .vector (regionHandle)

def stringVector : DataType := .vector (string)

def stringSet : DataType := .set string

def federateHandleBoolPair : DataType := .pair (federateHandle) .bool

def federateHandleBoolPairVector : DataType := .vector federateHandleBoolPair

def rangeBoundsValue : DataType :=
  .struct [("LowerBound", unsigned), ("UpperBound", unsigned)]

def dimensionHandleRangeBoundsValuePair : DataType :=
  .pair (dimensionHandle) rangeBoundsValue

def regionValue : DataType := .vector dimensionHandleRangeBoundsValuePair

def regionHandleDimensionHandleSetPair : DataType :=
  .pair (regionHandle) dimensionHandleSet

def regionHandleDimensionHandleSetPairVector : DataType :=
  .vector regionHandleDimensionHandleSetPair

def regionHandleRegionValuePair : DataType := .pair (regionHandle) regionValue

def regionHandleRegionValuePairVector : DataType :=
  .vector regionHandleRegionValuePair

def attributeState : DataType :=
  .struct
    [("AttributeHandle", attributeHandle),
     ("OwnerFederate", federateHandle)]

def attributeStateVector : DataType := .vector attributeState

def parameterValue : DataType :=
  .struct
    [("ParameterHandle", parameterHandle), ("Value", .variableLengthData)]

def parameterValueVector : DataType := .vector parameterValue

def attributeValue : DataType :=
  .struct
    [("AttributeHandle", attributeHandle), ("Value", .variableLengthData)]

def attributeValueVector : DataType := .vector attributeValue

def federationExecutionInformation : DataType :=
  .struct
    [("FederationExecutionName", string),
     ("LogicalTimeFactoryName", string)]

def federationExecutionInformationVector : DataType :=
  .vector federationExecutionInformation

def objectInstanceHandleNamePair : DataType :=
  .pair (objectInstanceHandle) (string)

def objectInstanceHandleNamePairVector : DataType :=
  .vector objectInstanceHandleNamePair

def configurationParameterMap : DataType := .map string string

/-! ## Object models as strings -/

def fomStringBasicDataType : DataType :=
  .struct
    [("Name", string), ("Size", unsigned), ("Endian", endianness)]

def fomStringBasicDataTypeList : DataType := .vector fomStringBasicDataType

def fomStringSimpleDataType : DataType :=
  .struct [("Name", string), ("Representation", string)]

def fomStringSimpleDataTypeList : DataType := .vector fomStringSimpleDataType

def fomStringEnumerator : DataType :=
  .struct [("Name", string), ("Value", unsigned)]

def fomStringEnumeratorList : DataType := .vector fomStringEnumerator

def fomStringEnumeratedDataType : DataType :=
  .struct
    [("Name", string), ("Representation", string),
     ("Enumerators", fomStringEnumeratorList)]

def fomStringEnumeratedDataTypeList : DataType := .vector fomStringEnumeratedDataType

def fomStringArrayDataType : DataType :=
  .struct
    [("Name", string), ("DataType", string),
     ("Cardinality", string), ("Encoding", string)]

def fomStringArrayDataTypeList : DataType := .vector fomStringArrayDataType

def fomStringArrayDataType2 : DataType :=
  .struct
    [("Name", string), ("DataType", string),
     ("Cardinality", string), ("Encoding", arrayDataTypeEncoding)]

def fomStringArrayDataType2List : DataType := .vector fomStringArrayDataType2

def fomStringFixedRecordField : DataType :=
  .struct [("Name", string), ("DataType", unsigned)]

def fomStringFixedRecordFieldList : DataType := .vector fomStringFixedRecordField

def fomStringFixedRecordDataType : DataType :=
  .struct
    [("Name", string), ("Encoding", string),
     ("Fields", fomStringFixedRecordFieldList)]

def fomStringFixedRecordDataTypeList : DataType :=
  .vector fomStringFixedRecordDataType

def fomStringFixedRecordField2 : DataType :=
  .struct
    [("Name", string), ("DataType", string),
     ("Version", unsigned)]

def fomStringFixedRecordField2List : DataType := .vector fomStringFixedRecordField2

def fomStringFixedRecordDataType2 : DataType :=
  .struct
    [("Name", string), ("Encoding", string),
     ("Include", string), ("Version", unsigned),
     ("Fields", fomStringFixedRecordField2List)]

def fomStringFixedRecordDataType2List : DataType :=
  .vector fomStringFixedRecordDataType2

def fomStringVariantRecordAlternative : DataType :=
  .struct
    [("Enumerator", string), ("Name", string),
     ("DataType", unsigned)]

def fomStringVariantRecordAlternativeList : DataType :=
  .vector fomStringVariantRecordAlternative

def fomStringVariantRecordDataType : DataType :=
  .struct
    [("Name", string), ("Discriminant", string),
     ("DataType", string),
     ("Alternatives", fomStringVariantRecordAlternativeList),
     ("Encoding", string)]

def fomStringVariantRecordDataTypeList : DataType :=
  .vector fomStringVariantRecordDataType

def fomStringVariantRecordAlternative2 : DataType :=
  .struct
    [("Enumerator", string), ("Name", string),
     ("DataType", string)]

def fomStringVariantRecordAlternative2List : DataType :=
  .vector fomStringVariantRecordAlternative2

def fomStringVariantRecordDataType2 : DataType :=
  .struct
    [("Name", string), ("Discriminant", string),
     ("DataType", string),
     ("Alternatives", fomStringVariantRecordAlternative2List),
     ("Encoding", string)]

def fomStringVariantRecordDataType2List : DataType :=
  .vector fomStringVariantRecordDataType2

def fomStringTransportationType : DataType :=
  .struct [("Name", string)]

def fomStringTransportationTypeList : DataType := .vector fomStringTransportationType

def fomStringDimension : DataType :=
  .struct [("Name", string), ("UpperBound", unsigned)]

def fomStringDimensionList : DataType := .vector fomStringDimension

def fomStringRoutingSpace : DataType :=
  .struct [("Name", string), ("DimensionSet", stringSet)]

def fomStringRoutingSpaceList : DataType := .vector fomStringRoutingSpace

def fomStringParameter : DataType :=
  .struct [("Name", string), ("DataType", string)]

def fomStringParameterList : DataType := .vector fomStringParameter

def fomStringInteractionClass : DataType :=
  .struct
    [("Name", stringVector), ("OrderType", string),
     ("TransportationType", string), ("RoutingSpace", string),
     ("DimensionSet", stringSet), ("ParameterList", fomStringParameterList)]

def fomStringInteractionClassList : DataType := .vector fomStringInteractionClass

def fomStringAttribute : DataType :=
  .struct
    [("Name", string), ("DataType", string),
     ("OrderType", string), ("TransportationType", string),
     ("RoutingSpace", string), ("DimensionSet", stringSet)]

def fomStringAttributeList : DataType := .vector fomStringAttribute

def fomStringObjectClass : DataType :=
  .struct [("Name", stringVector), ("AttributeList", fomStringAttributeList)]

def fomStringObjectClassList : DataType := .vector fomStringObjectClass

def fomStringUpdateRate : DataType :=
  .struct [("Name", string), ("Rate", .double)]

def fomStringUpdateRateList : DataType := .vector fomStringUpdateRate

def fomStringSwitch : DataType :=
  .struct [("SwitchesType", switchesType), ("Enabled", .bool)]

def fomStringSwitchList : DataType := .vector fomStringSwitch

def fomStringModule : DataType :=
  .struct
    [("Designator", string),
     ("TransportationTypeList", fomStringTransportationTypeList),
     ("DimensionList", fomStringDimensionList),
     ("RoutingSpaceList", fomStringRoutingSpaceList),
     ("InteractionClassList", fomStringInteractionClassList),
     ("ObjectClassList", fomStringObjectClassList),
     ("UpdateRateList", fomStringUpdateRateList), ("SwitchList", fomStringSwitchList),
     ("SimpleDataTypeList", fomStringSimpleDataTypeList),
     ("EnumeratedDataTypeList", fomStringEnumeratedDataTypeList),
     ("ArrayDataTypeList", fomStringArrayDataTypeList),
     ("FixedRecordDataTypeList", fomStringFixedRecordDataTypeList),
     ("VariantRecordDataTypeList", fomStringVariantRecordDataTypeList),
     ("ArtificialInteractionRoot", .bool), ("ArtificialObjectRoot", .bool)]

def fomStringModuleList : DataType := .vector fomStringModule

def fomStringModule2 : DataType :=
  .struct
    [("Designator", string),
     ("TransportationTypeList", fomStringTransportationTypeList),
     ("DimensionList", fomStringDimensionList),
     ("RoutingSpaceList", fomStringRoutingSpaceList),
     ("InteractionClassList", fomStringInteractionClassList),
     ("ObjectClassList", fomStringObjectClassList),
     ("UpdateRateList", fomStringUpdateRateList), ("SwitchList", fomStringSwitchList),
     ("BasicDataTypeList", fomStringBasicDataTypeList),
     ("SimpleDataTypeList", fomStringSimpleDataTypeList),
     ("EnumeratedDataTypeList", fomStringEnumeratedDataTypeList),
     ("ArrayDataTypeList", fomStringArrayDataType2List),
     ("FixedRecordDataTypeList", fomStringFixedRecordDataType2List),
     ("VariantRecordDataTypeList", fomStringVariantRecordDataType2List),
     ("ArtificialInteractionRoot", .bool), ("ArtificialObjectRoot", .bool)]

def fomStringModule2List : DataType := .vector fomStringModule2

/-! ## Object models with handles -/

def fomTransportationType : DataType :=
  .struct [("Name", string), ("TransportationType", transportationType)]

def fomTransportationTypeList : DataType := .vector fomTransportationType

def fomDimension : DataType :=
  .struct
    [("Name", string), ("DimensionHandle", dimensionHandle),
     ("UpperBound", unsigned)]

def fomDimensionList : DataType := .vector fomDimension

def fomRoutingSpace : DataType :=
  .struct
    [("Name", string), ("SpaceHandle", spaceHandle),
     ("DimensionHandleSet", dimensionHandleSet)]

def fomRoutingSpaceList : DataType := .vector fomRoutingSpace

def fomParameter : DataType :=
  .struct
    [("Name", string), ("DataType", string),
     ("ParameterHandle", parameterHandle)]

def fomParameterList : DataType := .vector fomParameter

def fomInteractionClass : DataType :=
  .struct
    [("Name", string),
     ("InteractionClassHandle", interactionClassHandle),
     ("ParentInteractionClassHandle", interactionClassHandle),
     ("OrderType", orderType), ("TransportationType", transportationType),
     ("DimensionHandleSet", dimensionHandleSet), ("ParameterList", fomParameterList)]

def fomInteractionClassList : DataType := .vector fomInteractionClass

def fomAttribute : DataType :=
  .struct
    [("Name", string), ("DataType", string),
     ("AttributeHandle", attributeHandle), ("OrderType", orderType),
     ("TransportationType", transportationType),
     ("DimensionHandleSet", dimensionHandleSet)]

def fomAttributeList : DataType := .vector fomAttribute

def fomObjectClass : DataType :=
  .struct
    [("Name", string), ("ObjectClassHandle", objectClassHandle),
     ("ParentObjectClassHandle", objectClassHandle),
     ("AttributeList", fomAttributeList)]

def fomObjectClassList : DataType := .vector fomObjectClass

def fomUpdateRate : DataType :=
  .struct
    [("Name", string), ("UpdateRateHandle", updateRateHandle),
     ("Rate", .double)]

def fomUpdateRateList : DataType := .vector fomUpdateRate

def fomSwitch : DataType :=
  .struct [("SwitchesType", switchesType), ("Enabled", .bool)]

def fomSwitchList : DataType := .vector fomSwitch

def fomBasicDataType : DataType :=
  .struct
    [("Name", string), ("Size", unsigned), ("Endian", endianness),
     ("Handle", basicDataTypeHandle)]

def fomBasicDataTypeList : DataType := .vector fomBasicDataType

def fomSimpleDataType : DataType :=
  .struct
    [("Name", string), ("Representation", string),
     ("Handle", simpleDataTypeHandle)]

def fomSimpleDataTypeList : DataType := .vector fomSimpleDataType

def fomEnumerator : DataType :=
  .struct [("Name", string), ("Value", unsigned)]

def fomEnumeratorList : DataType := .vector fomEnumerator

def fomEnumeratedDataType : DataType :=
  .struct
    [("Name", string), ("Representation", string),
     ("Enumerators", fomEnumeratorList), ("Handle", enumeratedDataTypeHandle)]

def fomEnumeratedDataTypeList : DataType := .vector fomEnumeratedDataType

def fomArrayDataType : DataType :=
  .struct
    [("Name", string), ("DataType", string),
     ("Cardinality", string), ("Encoding", arrayDataTypeEncoding),
     ("Handle", arrayDataTypeHandle)]

def fomArrayDataTypeList : DataType := .vector fomArrayDataType

def fomFixedRecordField : DataType :=
  .struct
    [("Name", string), ("DataType", string),
     ("Version", unsigned)]

def fomFixedRecordFieldList : DataType := .vector fomFixedRecordField

def fomFixedRecordDataType : DataType :=
  .struct
    [("Name", string), ("Encoding", string),
     ("Include", string), ("Version", unsigned),
     ("Fields", fomFixedRecordFieldList),
     ("Handle", fixedRecordDataTypeHandle)]

def fomFixedRecordDataTypeList : DataType := .vector fomFixedRecordDataType

def fomVariantRecordAlternative : DataType :=
  .struct
    [("Enumerator", string), ("Name", string),
     ("DataType", string)]

def fomVariantRecordAlternativeList : DataType := .vector fomVariantRecordAlternative

def fomVariantRecordDataType : DataType :=
  .struct
    [("Name", string), ("Discriminant", string),
     ("DataType", string), ("Alternatives", fomVariantRecordAlternativeList),
     ("Encoding", string), ("Handle", variantRecordDataTypeHandle)]

def fomVariantRecordDataTypeList : DataType := .vector fomVariantRecordDataType

def fomModule : DataType :=
  .struct
    [("ModuleHandle", moduleHandle),
     ("TransportationTypeList", fomTransportationTypeList),
     ("DimensionList", fomDimensionList), ("RoutingSpaceList", fomRoutingSpaceList),
     ("InteractionClassList", fomInteractionClassList),
     ("ObjectClassList", fomObjectClassList), ("UpdateRateList", fomUpdateRateList),
     ("SwitchList", fomSwitchList), ("ArtificialInteractionRoot", .bool),
     ("ArtificialObjectRoot", .bool), ("Designator", string)]

def fomModuleList : DataType := .vector fomModule

/-- It inherits from `FOMModule`, but only its own fields are written. -/
def fomModule2 : DataType :=
  .derived fomModule (.struct
    [("BasicDataTypeList", fomBasicDataTypeList),
     ("SimpleDataTypeList", fomSimpleDataTypeList),
     ("EnumeratedDataTypeList", fomEnumeratedDataTypeList),
     ("ArrayDataTypeList", fomArrayDataTypeList),
     ("FixedRecordDataTypeList", fomFixedRecordDataTypeList),
     ("VariantRecordDataTypeList", fomVariantRecordDataTypeList)])

def fomModule2List : DataType := .vector fomModule2

/-! ## Messages -/

inductive MessageType
  | connectionLost
  | createFederationExecutionRequest
  | createFederationExecutionRequest2
  | createFederationExecutionResponse
  | destroyFederationExecutionRequest
  | destroyFederationExecutionResponse
  | enumerateFederationExecutionsRequest
  | enumerateFederationExecutionsResponse
  | insertFederationExecution
  | shutdownFederationExecution
  | eraseFederationExecution
  | releaseFederationHandle
  | insertModules
  | insertModules2
  | joinFederationExecutionRequest
  | joinFederationExecutionRequest2
  | joinFederationExecutionResponse
  | resignFederationExecutionLeafRequest
  | resignFederationExecutionRequest
  | joinFederateNotify
  | resignFederateNotify
  | changeAutomaticResignDirective
  | registerFederationSynchronizationPoint
  | registerFederationSynchronizationPointResponse
  | announceSynchronizationPoint
  | synchronizationPointAchieved
  | federationSynchronized
  | enableTimeRegulationRequest
  | enableTimeRegulationResponse
  | disableTimeRegulationRequest
  | enableTimeConstrainedNotify
  | disableTimeConstrainedNotify
  | commitLowerBoundTimeStamp
  | commitLowerBoundTimeStampResponse
  | lockedByNextMessageRequest
  | timeConstrainedEnabled
  | timeRegulationEnabled
  | timeAdvanceGranted
  | insertRegion
  | commitRegion
  | eraseRegion
  | changeInteractionClassPublication
  | changeObjectClassPublication
  | changeInteractionClassSubscription
  | changeObjectClassSubscription
  | changeObjectInstanceSubscription
  | registrationForObjectClass
  | attributesInScope
  | turnUpdatesOnForInstance
  | turnInteractionsOn
  | interaction
  | timeStampedInteraction
  | objectInstanceHandlesRequest
  | objectInstanceHandlesResponse
  | releaseMultipleObjectInstanceNameHandlePairs
  | reserveObjectInstanceNameRequest
  | reserveObjectInstanceNameResponse
  | reserveMultipleObjectInstanceNameRequest
  | reserveMultipleObjectInstanceNameResponse
  | insertObjectInstance
  | deleteObjectInstance
  | timeStampedDeleteObjectInstance
  | attributeUpdate
  | timeStampedAttributeUpdate
  | requestAttributeUpdate
  | requestClassAttributeUpdate
  | queryAttributeOwnershipRequest
  | queryAttributeOwnershipResponse
  deriving DecidableEq

namespace MessageType

/-- The number of a message.  Those that never leave an ambassador have none. -/
def opCode : MessageType → Option UnsignedType.uint16.Value
  | connectionLost => some 1
  | createFederationExecutionRequest => some 2
  | createFederationExecutionRequest2 => some 104
  | createFederationExecutionResponse => some 3
  | destroyFederationExecutionRequest => some 4
  | destroyFederationExecutionResponse => some 5
  | enumerateFederationExecutionsRequest => some 6
  | enumerateFederationExecutionsResponse => some 7
  | insertFederationExecution => some 8
  | shutdownFederationExecution => some 9
  | eraseFederationExecution => some 10
  | releaseFederationHandle => some 11
  | insertModules => some 12
  | insertModules2 => some 106
  | joinFederationExecutionRequest => some 13
  | joinFederationExecutionRequest2 => some 105
  | joinFederationExecutionResponse => some 14
  | resignFederationExecutionRequest => some 15
  | joinFederateNotify => some 16
  | resignFederateNotify => some 17
  | changeAutomaticResignDirective => some 18
  | registerFederationSynchronizationPoint => some 30
  | registerFederationSynchronizationPointResponse => some 31
  | announceSynchronizationPoint => some 32
  | synchronizationPointAchieved => some 33
  | federationSynchronized => some 34
  | enableTimeRegulationRequest => some 40
  | enableTimeRegulationResponse => some 41
  | disableTimeRegulationRequest => some 42
  | enableTimeConstrainedNotify => some 100
  | disableTimeConstrainedNotify => some 101
  | commitLowerBoundTimeStamp => some 43
  | commitLowerBoundTimeStampResponse => some 44
  | lockedByNextMessageRequest => some 45
  | insertRegion => some 46
  | commitRegion => some 47
  | eraseRegion => some 48
  | changeInteractionClassPublication => some 50
  | changeObjectClassPublication => some 51
  | changeInteractionClassSubscription => some 52
  | changeObjectClassSubscription => some 53
  | changeObjectInstanceSubscription => some 99
  | interaction => some 80
  | timeStampedInteraction => some 81
  | objectInstanceHandlesRequest => some 60
  | objectInstanceHandlesResponse => some 61
  | releaseMultipleObjectInstanceNameHandlePairs => some 62
  | reserveObjectInstanceNameRequest => some 63
  | reserveObjectInstanceNameResponse => some 64
  | reserveMultipleObjectInstanceNameRequest => some 65
  | reserveMultipleObjectInstanceNameResponse => some 66
  | insertObjectInstance => some 90
  | deleteObjectInstance => some 91
  | timeStampedDeleteObjectInstance => some 92
  | attributeUpdate => some 94
  | timeStampedAttributeUpdate => some 96
  | requestAttributeUpdate => some 97
  | requestClassAttributeUpdate => some 98
  | queryAttributeOwnershipRequest => some 102
  | queryAttributeOwnershipResponse => some 103
  | resignFederationExecutionLeafRequest | timeConstrainedEnabled
  | timeRegulationEnabled | timeAdvanceGranted | registrationForObjectClass
  | attributesInScope | turnUpdatesOnForInstance | turnInteractionsOn => none

def fields : MessageType → List (String × DataType)
  | connectionLost => [("FaultDescription", string)]
  | createFederationExecutionRequest =>
      [("FederationExecution", string),
       ("LogicalTimeFactoryName", string),
       ("FOMStringModuleList", fomStringModuleList)]
  | createFederationExecutionRequest2 =>
      [("FederationExecution", string),
       ("LogicalTimeFactoryName", string),
       ("FOMStringModuleList", fomStringModule2List)]
  | createFederationExecutionResponse =>
      [("CreateFederationExecutionResponseType", createFederationExecutionResponseType),
       ("ExceptionString", string)]
  | destroyFederationExecutionRequest => [("FederationExecution", string)]
  | destroyFederationExecutionResponse =>
      [("DestroyFederationExecutionResponseType",
         destroyFederationExecutionResponseType)]
  | enumerateFederationExecutionsRequest => []
  | enumerateFederationExecutionsResponse =>
      [("FederationExecutionInformationVector", federationExecutionInformationVector)]
  | insertFederationExecution =>
      [("FederationHandle", federationHandle),
       ("FederationName", string), ("LogicalTimeFactoryName", string),
       ("ConfigurationParameterMap", configurationParameterMap)]
  | shutdownFederationExecution => [("FederationHandle", federationHandle)]
  | eraseFederationExecution => [("FederationHandle", federationHandle)]
  | releaseFederationHandle => [("FederationHandle", federationHandle)]
  | insertModules =>
      [("FederationHandle", federationHandle),
       ("FOMModuleList", fomModuleList)]
  | insertModules2 =>
      [("FederationHandle", federationHandle),
       ("FOMModule2List", fomModule2List)]
  | joinFederationExecutionRequest =>
      [("FederationExecution", string), ("FederateType", string),
       ("FederateName", string), ("FOMStringModuleList", fomStringModuleList),
       ("ConfigurationParameterMap", configurationParameterMap),
       ("IsInternal", .bool)]
  | joinFederationExecutionRequest2 =>
      [("FederationExecution", string), ("FederateType", string),
       ("FederateName", string),
       ("FOMStringModuleList", fomStringModule2List),
       ("ConfigurationParameterMap", configurationParameterMap),
       ("IsInternal", .bool)]
  | joinFederationExecutionResponse =>
      [("FederationHandle", federationHandle),
       ("JoinFederationExecutionResponseType", joinFederationExecutionResponseType),
       ("ExceptionString", string),
       ("FederateHandle", federateHandle), ("FederateType", string),
       ("FederateName", string)]
  | resignFederationExecutionLeafRequest =>
      [("FederationHandle", federationHandle),
       ("FederateHandle", federateHandle), ("ResignAction", resignAction)]
  | resignFederationExecutionRequest =>
      [("FederationHandle", federationHandle),
       ("FederateHandle", federateHandle)]
  | joinFederateNotify =>
      [("FederationHandle", federationHandle),
       ("FederateHandle", federateHandle), ("FederateType", string),
       ("FederateName", string), ("IsInternal", .bool)]
  | resignFederateNotify =>
      [("FederationHandle", federationHandle),
       ("FederateHandle", federateHandle)]
  | changeAutomaticResignDirective =>
      [("FederationHandle", federationHandle),
       ("FederateHandle", federateHandle), ("ResignAction", resignAction)]
  | registerFederationSynchronizationPoint =>
      [("FederationHandle", federationHandle),
       ("FederateHandle", federateHandle), ("Label", string),
       ("Tag", .variableLengthData), ("FederateHandleVector", federateHandleVector)]
  | registerFederationSynchronizationPointResponse =>
      [("FederationHandle", federationHandle),
       ("FederateHandle", federateHandle), ("Label", string),
       ("RegisterFederationSynchronizationPointResponseType",
         registerFederationSynchronizationPointResponseType)]
  | announceSynchronizationPoint =>
      [("FederationHandle", federationHandle), ("Label", string),
       ("Tag", .variableLengthData), ("AddJoiningFederates", .bool),
       ("FederateHandleVector", federateHandleVector)]
  | synchronizationPointAchieved =>
      [("FederationHandle", federationHandle), ("Label", string),
       ("FederateHandleBoolPairVector", federateHandleBoolPairVector)]
  | federationSynchronized =>
      [("FederationHandle", federationHandle), ("Label", string),
       ("FederateHandleBoolPairVector", federateHandleBoolPairVector)]
  | enableTimeRegulationRequest =>
      [("FederationHandle", federationHandle),
       ("FederateHandle", federateHandle), ("TimeStamp", .variableLengthData),
       ("CommitId", unsigned)]
  | enableTimeRegulationResponse =>
      [("FederationHandle", federationHandle),
       ("FederateHandle", federateHandle),
       ("RespondingFederateHandle", federateHandle),
       ("TimeStampValid", .bool), ("TimeStamp", .variableLengthData)]
  | disableTimeRegulationRequest =>
      [("FederationHandle", federationHandle),
       ("FederateHandle", federateHandle)]
  | enableTimeConstrainedNotify =>
      [("FederationHandle", federationHandle),
       ("FederateHandle", federateHandle)]
  | disableTimeConstrainedNotify =>
      [("FederationHandle", federationHandle),
       ("FederateHandle", federateHandle)]
  | commitLowerBoundTimeStamp =>
      [("FederationHandle", federationHandle),
       ("FederateHandle", federateHandle), ("TimeStamp", .variableLengthData),
       ("CommitType", lowerBoundTimeStampCommitType), ("CommitId", unsigned)]
  | commitLowerBoundTimeStampResponse =>
      [("FederationHandle", federationHandle),
       ("FederateHandle", federateHandle),
       ("SendingFederateHandle", federateHandle),
       ("CommitId", unsigned)]
  | lockedByNextMessageRequest =>
      [("FederationHandle", federationHandle),
       ("SendingFederateHandle", federateHandle),
       ("LockedByNextMessage", .bool)]
  | timeConstrainedEnabled => []
  | timeRegulationEnabled => []
  | timeAdvanceGranted => []
  | insertRegion =>
      [("FederationHandle", federationHandle),
       ("RegionHandleDimensionHandleSetPairVector",
         regionHandleDimensionHandleSetPairVector)]
  | commitRegion =>
      [("FederationHandle", federationHandle),
       ("RegionHandleRegionValuePairVector", regionHandleRegionValuePairVector)]
  | eraseRegion =>
      [("FederationHandle", federationHandle),
       ("RegionHandleVector", regionHandleVector)]
  | changeInteractionClassPublication =>
      [("FederationHandle", federationHandle),
       ("PublicationType", publicationType),
       ("InteractionClassHandle", interactionClassHandle)]
  | changeObjectClassPublication =>
      [("FederationHandle", federationHandle),
       ("PublicationType", publicationType),
       ("ObjectClassHandle", objectClassHandle),
       ("AttributeHandles", attributeHandleVector)]
  | changeInteractionClassSubscription =>
      [("FederationHandle", federationHandle),
       ("SubscriptionType", subscriptionType),
       ("InteractionClassHandle", interactionClassHandle),
       ("ParameterFilterValues", parameterValueVector)]
  | changeObjectClassSubscription =>
      [("FederationHandle", federationHandle),
       ("SubscriptionType", subscriptionType),
       ("ObjectClassHandle", objectClassHandle),
       ("AttributeHandles", attributeHandleVector)]
  | changeObjectInstanceSubscription =>
      [("FederationHandle", federationHandle),
       ("SubscriptionType", subscriptionType),
       ("ObjectClassHandle", objectClassHandle),
       ("ObjectInstanceHandle", objectInstanceHandle)]
  | registrationForObjectClass =>
      [("ObjectClassHandle", objectClassHandle), ("Start", .bool)]
  | attributesInScope =>
      [("ObjectInstanceHandle", objectInstanceHandle),
       ("AttributeHandles", attributeHandleVector), ("InScope", .bool)]
  | turnUpdatesOnForInstance =>
      [("ObjectInstanceHandle", objectInstanceHandle),
       ("AttributeHandles", attributeHandleVector), ("UpdateRate", string),
       ("On", .bool)]
  | turnInteractionsOn =>
      [("InteractionClassHandle", interactionClassHandle), ("On", .bool)]
  | interaction =>
      [("FederationHandle", federationHandle),
       ("FederateHandle", federateHandle),
       ("InteractionClassHandle", interactionClassHandle),
       ("TransportationType", transportationType), ("Tag", .variableLengthData),
       ("ParameterValues", parameterValueVector)]
  | timeStampedInteraction =>
      [("FederationHandle", federationHandle),
       ("FederateHandle", federateHandle),
       ("InteractionClassHandle", interactionClassHandle),
       ("OrderType", orderType), ("TransportationType", transportationType),
       ("Tag", .variableLengthData), ("TimeStamp", .variableLengthData),
       ("MessageRetractionHandle", messageRetractionHandle),
       ("ParameterValues", parameterValueVector)]
  | objectInstanceHandlesRequest =>
      [("FederationHandle", federationHandle),
       ("FederateHandle", federateHandle), ("Count", unsigned)]
  | objectInstanceHandlesResponse =>
      [("FederationHandle", federationHandle),
       ("FederateHandle", federateHandle),
       ("ObjectInstanceHandleNamePairVector", objectInstanceHandleNamePairVector)]
  | releaseMultipleObjectInstanceNameHandlePairs =>
      [("FederationHandle", federationHandle),
       ("ObjectInstanceHandleVector", objectInstanceHandleVector)]
  | reserveObjectInstanceNameRequest =>
      [("FederationHandle", federationHandle),
       ("FederateHandle", federateHandle), ("Name", string),
       ("IsInternal", .bool)]
  | reserveObjectInstanceNameResponse =>
      [("FederationHandle", federationHandle),
       ("FederateHandle", federateHandle),
       ("ObjectInstanceHandleNamePair", objectInstanceHandleNamePair),
       ("Success", .bool)]
  | reserveMultipleObjectInstanceNameRequest =>
      [("FederationHandle", federationHandle),
       ("FederateHandle", federateHandle), ("NameList", stringVector)]
  | reserveMultipleObjectInstanceNameResponse =>
      [("FederationHandle", federationHandle),
       ("FederateHandle", federateHandle),
       ("ObjectInstanceHandleNamePairVector", objectInstanceHandleNamePairVector),
       ("Success", .bool)]
  | insertObjectInstance =>
      [("FederationHandle", federationHandle),
       ("ObjectClassHandle", objectClassHandle),
       ("ObjectInstanceHandle", objectInstanceHandle),
       ("Name", string), ("AttributeStateVector", attributeStateVector)]
  | deleteObjectInstance =>
      [("FederationHandle", federationHandle),
       ("FederateHandle", federateHandle),
       ("ObjectInstanceHandle", objectInstanceHandle),
       ("Tag", .variableLengthData)]
  | timeStampedDeleteObjectInstance =>
      [("FederationHandle", federationHandle),
       ("FederateHandle", federateHandle),
       ("ObjectInstanceHandle", objectInstanceHandle),
       ("OrderType", orderType), ("Tag", .variableLengthData),
       ("TimeStamp", .variableLengthData),
       ("MessageRetractionHandle", messageRetractionHandle)]
  | attributeUpdate =>
      [("FederationHandle", federationHandle),
       ("FederateHandle", federateHandle),
       ("ObjectInstanceHandle", objectInstanceHandle),
       ("Tag", .variableLengthData), ("TransportationType", transportationType),
       ("AttributeValues", attributeValueVector)]
  | timeStampedAttributeUpdate =>
      [("FederationHandle", federationHandle),
       ("FederateHandle", federateHandle),
       ("ObjectInstanceHandle", objectInstanceHandle),
       ("Tag", .variableLengthData), ("TimeStamp", .variableLengthData),
       ("MessageRetractionHandle", messageRetractionHandle),
       ("OrderType", orderType), ("TransportationType", transportationType),
       ("AttributeValues", attributeValueVector)]
  | requestAttributeUpdate =>
      [("FederationHandle", federationHandle),
       ("ObjectInstanceHandle", objectInstanceHandle),
       ("AttributeHandles", attributeHandleVector), ("Tag", .variableLengthData)]
  | requestClassAttributeUpdate =>
      [("FederationHandle", federationHandle),
       ("ObjectClassHandle", objectClassHandle),
       ("AttributeHandles", attributeHandleVector), ("Tag", .variableLengthData)]
  | queryAttributeOwnershipRequest =>
      [("FederationHandle", federationHandle),
       ("ObjectInstanceHandle", objectInstanceHandle),
       ("AttributeHandle", attributeHandle)]
  | queryAttributeOwnershipResponse =>
      [("FederationHandle", federationHandle),
       ("ObjectInstanceHandle", objectInstanceHandle),
       ("AttributeHandle", attributeHandle),
       ("Owner", federateHandle)]

/-- The message of a number. -/
def ofOpCode (opCode : UnsignedType.uint16.Value) : Option MessageType :=
  match opCode.val with
  | 1 => some connectionLost
  | 2 => some createFederationExecutionRequest
  | 104 => some createFederationExecutionRequest2
  | 3 => some createFederationExecutionResponse
  | 4 => some destroyFederationExecutionRequest
  | 5 => some destroyFederationExecutionResponse
  | 6 => some enumerateFederationExecutionsRequest
  | 7 => some enumerateFederationExecutionsResponse
  | 8 => some insertFederationExecution
  | 9 => some shutdownFederationExecution
  | 10 => some eraseFederationExecution
  | 11 => some releaseFederationHandle
  | 12 => some insertModules
  | 106 => some insertModules2
  | 13 => some joinFederationExecutionRequest
  | 105 => some joinFederationExecutionRequest2
  | 14 => some joinFederationExecutionResponse
  | 15 => some resignFederationExecutionRequest
  | 16 => some joinFederateNotify
  | 17 => some resignFederateNotify
  | 18 => some changeAutomaticResignDirective
  | 30 => some registerFederationSynchronizationPoint
  | 31 => some registerFederationSynchronizationPointResponse
  | 32 => some announceSynchronizationPoint
  | 33 => some synchronizationPointAchieved
  | 34 => some federationSynchronized
  | 40 => some enableTimeRegulationRequest
  | 41 => some enableTimeRegulationResponse
  | 42 => some disableTimeRegulationRequest
  | 100 => some enableTimeConstrainedNotify
  | 101 => some disableTimeConstrainedNotify
  | 43 => some commitLowerBoundTimeStamp
  | 44 => some commitLowerBoundTimeStampResponse
  | 45 => some lockedByNextMessageRequest
  | 46 => some insertRegion
  | 47 => some commitRegion
  | 48 => some eraseRegion
  | 50 => some changeInteractionClassPublication
  | 51 => some changeObjectClassPublication
  | 52 => some changeInteractionClassSubscription
  | 53 => some changeObjectClassSubscription
  | 99 => some changeObjectInstanceSubscription
  | 80 => some interaction
  | 81 => some timeStampedInteraction
  | 60 => some objectInstanceHandlesRequest
  | 61 => some objectInstanceHandlesResponse
  | 62 => some releaseMultipleObjectInstanceNameHandlePairs
  | 63 => some reserveObjectInstanceNameRequest
  | 64 => some reserveObjectInstanceNameResponse
  | 65 => some reserveMultipleObjectInstanceNameRequest
  | 66 => some reserveMultipleObjectInstanceNameResponse
  | 90 => some insertObjectInstance
  | 91 => some deleteObjectInstance
  | 92 => some timeStampedDeleteObjectInstance
  | 94 => some attributeUpdate
  | 96 => some timeStampedAttributeUpdate
  | 97 => some requestAttributeUpdate
  | 98 => some requestClassAttributeUpdate
  | 102 => some queryAttributeOwnershipRequest
  | 103 => some queryAttributeOwnershipResponse
  | _ => none

theorem ofOpCode_eq_some
    {type : MessageType} {number : UnsignedType.uint16.Value}
    (numbered : type.opCode = some number) :
    ofOpCode number = some type := by
  cases type <;> cases numbered <;> rfl

end MessageType

end MessageEncoding
end OpenRTI
