import OpenRTI.Connecting.NegotiationRuns
import OpenRTI.Containers.MessageQueueRuns
import OpenRTI.CopyOnWrite.ValueSemantics
import OpenRTI.DataStream.CompressedIntegers
import OpenRTI.DataStream.CompressedStreams
import OpenRTI.DataStream.OptionMapRoundTrip
import OpenRTI.DeclarationManagement.InteractionClassCalls
import OpenRTI.DeclarationManagement.InteractionClassRuns
import OpenRTI.DeclarationManagement.ObjectClassRuns
import OpenRTI.Encoding.AppendingEncode
import OpenRTI.Encoding.ArrayBookkeeping
import OpenRTI.Encoding.ArrayContents
import OpenRTI.Encoding.ArrayRuns
import OpenRTI.Encoding.RecordVersions
import OpenRTI.FEDFile.BracketDiscipline
import OpenRTI.Federate.ModuleOrder
import OpenRTI.Foundation.Reassembly
import OpenRTI.MessageEncoding.Connection
import OpenRTI.MessageEncoding.DataTypeRoundTrip
import OpenRTI.MessageEncoding.DataTypes
import OpenRTI.MessageEncoding.MessageTypes
import OpenRTI.MessageEncoding.PacketRoundTrip
import OpenRTI.MessageEncoding.TightBE1MessageEncoding
import OpenRTI.Regions.RegionAlgebra
import OpenRTI.ServerModel.AttributeHandleRuns
import OpenRTI.ServerModel.HandleTransactions
import OpenRTI.ServerModel.InheritedSubscriptionRuns
import OpenRTI.ServerModel.InteractionFilterRuns
import OpenRTI.ServerModel.ValidatedModules
import OpenRTI.ServerModel.VariableLengthDataTupleSet
import OpenRTI.ServerNode.FederationMemberRuns
import OpenRTI.ServerNode.FederationRequests
import OpenRTI.ServerNode.FilterSubscriptionRuns
import OpenRTI.ServerNode.HeldFilters
import OpenRTI.ServerNode.InteractionRouting
import OpenRTI.ServerNode.NameReservationRuns
import OpenRTI.ServerNode.ObjectClassDeclarations
import OpenRTI.ServerNode.SubscriptionKnowledge
import OpenRTI.ServerNode.SynchronizationRuns
import OpenRTI.ServerNode.TimeConstrainedRuns
import OpenRTI.ServerNode.TimeRegulatingRuns
import OpenRTI.StreamBuffer.ByteIterator
import OpenRTI.StreamBuffer.FilledBuffers
import OpenRTI.StreamBuffer.Receiving
import OpenRTI.StreamBuffer.ReceivingBuffers
import OpenRTI.StreamBuffer.ReceivingRuns
import OpenRTI.StreamBuffer.Sending
import OpenRTI.StreamBuffer.SendingRuns
import OpenRTI.StringUtils.UtfRoundTrip
import OpenRTI.TimeManagement.DeliveryRuns
import OpenRTI.TimeManagement.Integer64Bounds
import OpenRTI.TimeManagement.LookaheadRuns
import OpenRTI.TimeManagement.LowerBoundCounts
import OpenRTI.TimeManagement.NextMessageRuns
import OpenRTI.TimeManagement.NotificationRuns
import OpenRTI.TimeManagement.PendingTimeRuns
import OpenRTI.URL.RoundTrip
