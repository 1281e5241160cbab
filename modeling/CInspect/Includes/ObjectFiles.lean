import CInspect.Text.Packed
/-!
The headers that describe object files and dynamic linking: the ELF format, the older a.out and archive formats, the symbol tables of debuggers, and the interface of the dynamic linker.

Each entry is the full path of a header and its text, reduced to the
declarations and macros that programs can see, each on the line it
stands on in the header.
-/

namespace CInspect.Includes

/-- The object file and dynamic linking headers. -/
def objectFileHeaders : List (String × String) := Text.unpackEntries <|
  String.join [
    "/usr/include/ar.h`~2!!#ifndef _AR_H`#define~&!1 1``#~'!f <sys/cdefs.h>~'!b~'!QARMAG\t\"!<arch>\\n\"~)!=S~&!>8~,!PF~%!Q~`\\n\"``__BEGIN_DECLS``struct ar_hdr`  @`",
    "    char ar_name[16];~-!9date[12~/!9uid[6], ar_g~%!.~.!Cmode[8~/!8size[10~/!9fmag[~&%.$;``__END~(&+#endif`\x00~-(;elf~>(<ELF~*(=\t~&!2 1~&!G~)(Atdint~&(=typedef",
    " uint16_t Elf32_Half;~5!A64~'!A~.!c32~)!cWord~)!c\t~(!?~'!ASw~,!B~-!b64~;!b64~(!b~.%H64~)%HXw~0!e~%!A~(%Ix~2%J~(!d64~<!d64~)!d~9&sAddr~9%+~&!A~9!cOff~9!b~%!?~9)",
    "%Section~9)(~)!D~*!i~*)b~'!.Versym;~,!E~')f~'!.~(!E~,.tEI_NIDENT (16)~*%-~&.?`@`  unsigned~%,s\te_ident[~)!_~%,|~*%_\te_type~1!8machin~+!;Word\te_vers~%&V ~+(U\t",
    "e_entry~*!9Off\te_phoff~0!8s~.!8~'%'flags~1%Vehsiz~2%pphent~7!=num~1!9s~9!Ts~7!Tstrndx;`$~'!<Eh~%*y~[(C~')[~.(C~*!8~.(C~'.p~1(C~',W~/(C~&,1~/(C~)!8s~.!8~3(C~*%V",
    "~-(C~*!:~0(C~,!=~*'j~*!9s~9!Ts~7!T~-(C64~((C~/-)MAG0\t\t0~*!6LF~'!6x7f~0!N1\t\t1~/!N1\t\t'E'~0!M2\t\t2~/!M2\t\t'L~1!M3\t\t3~/!M3\t\t'F'~*%y\t~&!:\t\t\"\\177ELF~",
    ")9x\tS~(!>4~-%'CLASS\t4~,%'~%!6NONE~.&j~%!:32~.&R~%!864~.&=~&!hUM\t3~-%:DATA\t\t5~,!NDATA~2%9DATA2LSB~.%:~%!9MSB~.%;~%!i~1%:VERSION\t6~.)AOSABI\t7~,!g~%!6_~%%T~",
    ".%U~&!<SYSV~5!<HPUX~/)e~'!rETBSD~/)T~&!>GNU~/)C~&!;LINUX\t\t~,!L~3%ZOLARIS\t6~2!>AIX\t~4&RIRIX\t\t8~2!<FREEBSD\t9~2!>TRU64\t\t1~3&rMODESTO\t1~3&uOPENBSD\t1~3&vA",
    "RM_AEABI\t64~5!B\t\t9~3&9STANDALONE\t255~-)HABI~()e8~-!<PAD\t\t9~-/>T~2)_T_REL~-)<T_EXEC~-)4T_DYN~-).T_CORE\t~*-_\tET_NUM~-,XT_LOOS\t\t0xfe0~-%DHI~(!;ff~.!TPROC",
    "\t0xff~0!U~)!<ff~-&PM~'&P ~+!TM_M32\t\t ~+&RM_SPARC\t ~+&SM_386\t\t ~+&TM_68K\t\t ~+(tM_8~%!6~+&UM_IAMCU\t 6~-!K60\t\t 7~-%WIPS\t\t 8~-%X370\t\t 9~0!L_RS3_LE\t1",
    "0~-&ZPARISC\t1~,)yM_VPP500\t17~1&a32PLUS\t1~-%D960\t\t1~-%CPPC\t\t20~/!664\t2~.'a390\t\t2~-'aSPU\t\t23~.%d800\t\t3~-'8FR20\t\t3~-%wRH32\t\t3~-%qRCE\t\t3~-%q~%-9",
    "4~-%qFAKE_ALPHA\t4~.%vH\t\t42~1'0V9\t4~-)ZTRI~%,84~-)_ARC\t\t4~-)_H8_300\t46~2!8H\t4~-&KH8S\t\t48~/!M500\t4~-&LIA_64\t50~1)xX\t5~-&ICOLDFIRE\t5~-&N68HC12\t5~-&M",
    "MMA\t\t5~-&JPCP\t\t5~-&JNCPU\t\t5~-&INDR1\t\t5~.*mTAR~%'H5~-&KME16\t\t5~-&JST100\t6~-&JTINYJ\t6~-&IX86_64\t6~-&GPDSP\t\t6~-&FPDP10~-3K~&!71\t6~-&HFX66\t\t6~-&HS",
    "T9~%,y6~/&J7\t\t68~1'o6\t69~1!81\t70~0!808\t71~1!85\t7~.+BVX\t\t73~/'E9\t\t7~-&HVAX\t\t7~-&GCRIS\t\t7~-&GJAVELIN\t7~-&GFIREPATH\t7~-&KZSP\t\t7~.1&M~%9!~-&HHUANY",
    "\t8~-&GPRISM\t8~-&FAVR\t\t8~-&FFR30\t\t8~-&FD10V\t\t8~-&GD3~%!7~-&GV850\t\t8~.3F32R\t\t8~.+6N10300\t89~0!9200\t9~.2+J\t\t9~-&EOPEN~%3W9~.&HRC_COMPACT\t9~-&OXTEN",
    "SA\t9~.(uIDEO~%-*9~-&TTMM_GPP\t9~.-oS32K~-;=M_TPC\t\t9~.5zNP1K\t9~/-k200\t1~,8rM_IP2K\t\t10~-&UMAX\t\t10~-&RCR\t\t10~.(y2MC16\t10~-&LMSP430\t10~-&JBLACKFIN\t10~",
    ".-sE_C33\t10~.-sEP\t\t108~/(*A\t\t10~-&PUN~&491~,?rM_EXCESS\t1~,?lM_DXP\t\t11~.),LTERA_NIOS2 11~-&]CRX\t\t11~-&ZXGATE\t11~..)166\t\t11~-&VM16C\t\t1~.9hDSPIC30F\t",
    "1~.9fCE\t\t1~.9fM32C\t\t12~.;(TSK3000\t13~-&WRS08\t\t13~.0SHARC\t13~-&QECOG2\t13~-&RSCORE7\t13~..5SP24\t1~.:C~),23\t1~.:ILATTICEMICO32 1~.:RSE_C17\t1~.:UTI_C6~%",
    "&K~.:ZTI_C2~&!;1~0!;5~%=n~.:bTI_ARP32\t1~/:dI_PRU\t14~,MrM_MMDSP_~&>F~.7/CYPRESS_M8C\t1~.76R~&(g~.76TRIMEDIA\t1~.7:QDSP6\t1~.7;8051\t\t1~.7<STXP7X\t1~.7>ND~%O<~",
    ".7=ECOG1X\t1~.7AMAXQ30\t1~.7BXIMO16\t1~.7CMANIK\t1~.7CCRAYNV2\t1~.7E~%-,~.7EMETAG\t1~.7FMCST_ELBRUS\t1~.7N~%&,6\t1~.7PCR16\t\t1~.7OETPU\t\t1~.7MSLE9X\t1~.7OL10M",
    "\t\t1~.7PK~'!81~-)kAARCH64\t18~.D&AVR32\t1~.7/STM8\t\t1~.70TILE~%!h7~0!9PRO\t1~/75ICROBLAZE\t1~.79CUDA\t\t1~.78TILEGX\t1~.7<CLOUDSHIELD\t1~.7ACOREA_1ST\t1~.7?~&",
    "!<2ND\t19~0DWV2\t1~.7AOPEN8\t1~.7?RL78\t\t1~.7A~)/w5\t1~.7H78KOR\t1~.7I56800EX\t2~.7KBA1\t\t2~.7JBA2\t\t2~.7JX~%5Z2~.7LMCHP_PIC\t2~.7NINTELGT\t20~.KGK~%N+2~.6KK",
    "MX32\t2~.6JEMX16\t2~.6KEMX8\t\t2~.6DKVARC\t2~.6ECDP\t\t2~/6DOGE\t\t2~.6DCOOL\t\t2~.6DNORC\t\t2~/6ASR_KALIMBA\t2~.6IZ8~%Lc~-&RVISIUM\t2~.M6FT~%'(~.M7MOXIE\t22~-&",
    "SAMDGPU\t22~.3URISCV\t24~.-fBPF\t\t2~.K*CSKY\t\t2~.J+LOONGARCH\t258~.S5UM\t\t25~.V!~&?zA5\t~.A,~/diM~'N*0x9026~-!>V~2ViV_CURRENT~,VlV~'%P``~5j8~+lWsh~%xr;~1!9~.",
    "nK~(!9~/m/~%ijsh_a~%rN~,mtsh_offset~2!k~.li~(!9link~2!9info~2!9addralign~2!>~)iS~(mCS~9mC~+kB~.'-~+!9~.m5~%vA~0'.~(lu~.'.~'l_~0'.~,!l~.kS~3'/~+!9~+'/~,!j~0'0~,!",
    "?~.'164~('1~*+&SHN_UNDEF~++'SHN_LORESERVE~0]5~&!A~4]PSHN_BEFOR~)!X~-!>AFTER~&!=1~.!=~+_11f~/%8OS~%!;2~.%6~%aA0xff3~.!TAB~&aXff1~-!;COMMON~&!=2~-!=XINDEX~(aZ~.%3",
    "~,')~.azSHT_NULL\t ~+a|SHT_PROGBITS\t ~+b)SHT_SYMTAB\t ~+b,~%!:TR~&!:3~-!:RELA\t ~+b2SHT_HASH\t ~+b4SH~%eJAMIC\t ~+b8~%%qOTE\t ~+b:~&!8~'%o8~0%=\t\t ~+b>~%%mHLI",
    "B\t  10~0%?SYM\t  1~.&]INIT_ARRAY\t  1~.&4FINI~*!?~.&;PRE~*!b 1~.&AGROUP\t  17~3'w_SHNDX  1~1&IR\t  ~*75\t~&),M\t\t  ~-*v~'hT  0x60~&!!~.%NNU_ATTRIBUTES 0x6f~%!",
    "!5~1!J~'(q~)!F6~1!FLIBLIST~,!I~.&PCHECKSUM~,!F~.&ULOSUNW~,!Da~.'=UNW_move~?!GCOMDAT ~+!Ib~2!Isyminfo~+!Ic~1&Pverdef~,%=d~4!Hneed~,!Ie~4!Isym~,!Hf~.-(I~0&y~0!D~(",
    ")G~4!B~'28  0x7~4)j~'1a~%!D~6!gUSER~%!D8~6!g~*!D~(!g~-0bF_WRI~%.m   (1 << 0)~-!DALL~%%R~)!D1~.!DEXECINSTR~,!H2~.!HMERG~-%34~.!DSTRINGS~,!F5~.!FINFO_LINK~,!H6~.!",
    "HLINK_ORDE~-%[7~.!IOS_NONCONFORMING~'!J8)~.'=~(/i~)!n9~.!nTLS\t~-'<~/'aCOM~%QsED~-!J~/'gMASKO~'&v0x0ff~0)B~&!G~'*/~%!If~2)jF~%,,RETAIN~-(Y~/%=~%'C~.%d30~/&wEXCL",
    "UD~))+U~%!I1)`~CBIc~5B2c~5ACc~-<a~(?RC~E?Rc~0?;~(!9reserved~0=Zc~0>h~)!:~0%S64~(%S~*EMLF~()J_ZLI^/%)n~*!>STD^/%+3~(!>~'<m~15U~,!H~'<y~10V~.!o~'=|7~>!q~(!J~*/y~(",
    "!LGRP~'4D\t0x1~DGyt~/Gy~&D=t_valu~1Ftt~)(9^.%6%st~)Ck~1!<othe~+H>^'%<R~%!sh^-%7>Sym~CFv~*&*~G%R ~/%R^*%>+~+%R~.G=~.&|~*Et~('!~)Eq^(%>+~9(5Half si_boundto;~1!<~'",
    "Hm~+')~&&A~:'-~6!z~+!<~,!z~&%x~'!z~*05YM~%4MBT_SELF\t~1Dv~*!DPA~%O/~%!Ee~4!ELOW~/HN~2%7FLG_DIRECT\t0x00~+WR~,!FPASSTHRU~&!H2~5!HCOPY~&!D4~5!DLAZYLOAD~&!H8~3%]~0",
    "Qp~(!;~(Qu\t~2%p~*Q|~,.l32_ST_BIND(val)\t\t(((~-+Q) ~%!<) >>~,9I~)!bTYPE~)!bval) & 0xf~3!NINFO(bind, type)\t((~%!2)~&:P + ((~%!<~'!i)~.&%64~/&%~-&9~&%y~2!T~+%r~",
    "-&.~8!T~1%x~-&: ~'&-, ~&&%)~->;TB_LOCAL~,(oTB_GLOBAL~,(iTB_WEAK~*4l\tSTB~&(x3~/!vOS^,%6v~%!vNU_UNIQUE~0!=~%5)~+_Y~&!i~%4H1~.%'~'4a15~.&;~%LEYPE~-&<T_OBJEC~,Y%ST",
    "T_FUNC~+7-STT_SECTION~-&?T_FILE^+%?TSTT~(PM5~-!8~%>A6~+'9~'Jo7~-!J~2'9~&FJI~%%c~/!<~2'8T~5'8T~.'8~-';~*U8~5-mVISIBILITY(o)\t((o~&,B03~5,B~.!R~3!l (o~,!_STV_DEFA",
    "ULT~-(kV~%g<RN~/+.V_HIDDEN~-(oV_PROTECTED\t3~>5|~%6wr~6_.r~'8+~(5wRel~&6u~;5x~4!w~)7s~-!x64~)!x~a%q^-%Y,\tr_addend~-&1a;~d&-^.%X/~0%5~&&Ga~-&H~+&%~)%Xr^0%V5~&%4",
    "~)!i~.]y~&*XR_SYM~.4R>> 8~04QR~85%~15&R~&3(sym~(3'\t(((sym~%5!8~15!~%5%~.,[~&%gi)\t\t\t((i~%%d32~04=~'%e~*!J~&!u~&!!~2!Q~)%h~*%g(~+'M) ~%%v~%%w32~%%x~*4v~>Cwp~/",
    "ILOff\tp~1++~%*2p_v~.iZ~'!9p~.!9~'%&filesz~1!:mem~3!9~/jx~'!9~/JeP~EJep~4Jdp~0hz~3&e~(,t~.&e~*!9p~.!9~&+x~/&f~+!;~,&g~+!:~/KaP^2%UjPN_X~%5|~1e;\tP~'e:~+32PT_~%?",
    "d~+3.P~*d.2~,!8~%3ZP~+7xP~'d?~+7xP~(ci5~,!6PHDR~+7v P~'807~.%mM^,%OfP^*%KP~1MBP~&86EH_FRAME\t0x6474e55~1!GSTACK~*!D1~0!DRELRO~*!D2~0!DPROPERTY~*!G3~1%2~/%T~-'4~",
    "'b5~3ahP~&a>BSS~;!B~)&:~0b)P~)_>~3PAP^*%Nz~4!?~:PTPT~5PK~*!DF_X\t\t~1]?PF_W~(!:1~-!:R~(!:2~-!:~'Xd~3X]P~+X[~+XV~+%TNT_PRSTATUS~+,7~%!9FPREG\t2~-!P~%!7SET~+,O~%!",
    "PPSINFO~+,Q~%!9XREG~+,RNT_TASKSTRUCT~.!;PLATFORM~+,pNT_AUXV~,,pNT_GWINDOWS~+AnNT_ASRS~,,uNT_P~(&Q0~.!9~%%|1~/&!CRED\t1~-%eUTSNAME\t1~-%eLW~)%'6~0!;~&%)7~0'p~%',",
    "2~-%VSIG~%!Q0x53494749~.(8ILE\t\t0x46494c45~/)-X~&(p0x46e62b7f~-!CPC_VMX\t0x^,%Au~'!<SPE~%!<1~1!VS~&!V2~0!<TAR~%!<3~0!<PP~&!<4~0!<DSC~&!=5~0!=EBB~%!<6~1!sMU~%!<",
    "7~1%NM_CG~'%88~4!AF~'!A9~4!A~('.a~5!A~'&qb~3!AS~'%%c~4!_~('9d`~4!B~('>e~5!B~)'Df~1!CPKEY\t0x1^,%Y(~((%EX~&![1~1)7HASHKEY~&!B~-)<386~%6Q0x2~.*3386_IOPERM~%!?~-!z",
    "X86_XSTATE~%!?2~0!?SHSTK~%!>~-)zS390_HIGH_GPRS\t0x3~.%C~%!DTIMER~%!?1~2!?ODCMP~%!A2~4!A~',w3~.+b~%!BCT~'%B~2%ePREFIX~%!A5~1!ALAST_BREAK~%!E6~1!ESYSTEM_CALL~%!F7",
    "~2%lDB~%!=8~1!=VXRS_LOW~%!C~./g~*!DHIGH~%!Ea~1!DGS_C~&%+b~4!?BC~%!?c~2%(RI~(!_d~2'6V_CPU^&%ol0x30e~-4!RM_VFP\t0x4~.);ARM~'*w4~.)8ARM_HW~)'n4~.)9~'!BWATCH~%!B3~0",
    "!B~.(34~.)?~%!E~%a]40~.36ARM_PAC~%8n~%!C6~4!CA_KEY~&&07~4!DG~*!D8~1!DTAGGED_ADDR_CTR~&%r9~5%VENABLED~*!ua~-!KVMCOREDD~&<d~,!=MIPS_DSP\t~%xO~1!=FP_MODE~%!B1~1!BM",
    "SA~%!=~-(FRISCV_CSR\t0x9~.!z~&!>VECTO~&!B~-!z^)%:1_CPUCFG\t0xa~.!g~+!F~%%.a^,%1&~-!DL~%49a02~8!DA~'!E3~8!EBT~%!D4~7!D~++Ja~./a~-!H~(+Pa06~/?4^(%qv1~>W%~&TXd_tag",
    "~&mnion`  ^(&8L~,Lt d_val;~-!;Addr d_pt~%KN  $ d_u~+M>Dyn~<M=~'Tt~>%O~(Ku~1%P~'M'~9%P64~'%P~*'AD~2KyDT_NEEDED~+CfDT_PLTRELSZ~+CM~&!9GOT~+CKD^'%3p~+C1D^)%4X5~-!7",
    "^&%5.6~,!7RELA~,bx~'!6SZ~+C.~'!7ENT^+%ye~&%3SZ~,CB~&%3ENT^,%yTD^&%3s\t~,cFD^&%3k\t~,CmDT_SO~&CT~-&FRPATH~,Ck~&%5BOLIC~,Cj~&%y\t~,Cf~&!6SZ^,%sB~&!7~%%w9~2(B~,D5D",
    "T_DEBUG^,%sFDT_TEX~&!N~-&KJMP~%!8~)&L\tD~&le_NOW\t24~,!:^+%7.25~,!<^+%7+26~6!VSZ\t27~6!XSZ\t2~.&gUN~%'g2~-&hFLAGS\t3~-&gENCODING\t3~.+D^-%8L~;!?SZ 33~2+C^&%8R\t",
    "3~.)PELRSZ\t35~0!8^-%vz~'!7ENT^+%w!\tD~'T!3~-&g~/T%d~--K~,PW~,NcD~<PWD~4PW~+%UPROCNUM\tD~'6fNUM`~//pVALRNGLO~(%Ld~.%.~&T[ELINKED^(%5idf5~0!HCONFLICTSZ~*!I6~0!I^",
    "'%:h~,!H~--4^)%:g~)!C8~/-*PADSZ~*!C~-*_MOVE~&zr~'!Ba~0!B~,!bb~-+DEATURE_1~*!Dc~-%JOSFLAG~,!Dd`~/*wIN~,%.e~1!B~-%nf~2(WHI~:!CTAGIDX(tag)\t(~+!V - ~%!8)~/!TNUM 12",
    "~/qIDT~%>_~-)qe~2)q~%54~(!C~.)lTLSDESC_PL~)&Ge~.)i~(!FGO~+!F7~8*Y~*!G8~7*W~*!F~-)nCONFIG~*!A~-)mDEPAUDI~+!c~-)o~/!?c~--c~%+9~*!Ad~,!AMOVETAB~*!B~2)gF~*(,~.)D~'(",
    "M~*)g~3!D~0)h~)!X~5)iADDR~%)j1~0/YERSY~)-vff0`~09dCOU~*+gf~.(-REL~/!Ca~.%.~%5&~*-8~+bO\t~&%M~%xa^*%EM~2!BN~*/lf~.(5VERNEE~)(Tffe`~3!C~-!gf~0&zION~1-a~)!]~6-c~)!",
    "Z~%'|6~0-gUXILIARY^&%>+7~/&3~&<kLTER~&Ae^4%EaDT_EXTRA~-%l(~*D')-~(!1S~'q]tag) <<1>>1)-1)~1!q^'&AO~*!;F_ORIGIN^&%/|0^-%1;DF~*>!~)!C~+9hF~)<s~)!B~+9JF~*<f~)!C8~-%",
    "+TATIC~'Or~'%L~-etDF_1~.!g~-%o1^(%,f~6%o1^'%E?~6%o1_NODELE~%W]~4%q1~%oVFLTR~,%q~-!EINITFIR~%1N~'%Q~/!FNOOPE~*(/4~/!C~/(O8~/!C^,%6-00~,cM~%!CTRAN~)'f2~0!B~&qDOS~",
    ")&]4~0!FNODEFLIB~(!E8~3!EUM~('l10~0!CCONFAL~(%s2~1!DEND~%,h~(%R4~+!F\t~'&_SPRELDN~(!G8~8!GPN^'%8%10~1!GNO~,'Q2~2!EIGNMUL~&1?~'%X~1!jKSYM~''x8~4!DHD~&*310~2!BEDI",
    "T~%1a~'%N~1!dREL~%Ab~'%L~/!D~%6=T~))*8~3!G~%,p~'7k~'%S~0!lINGLETO~%+%2~5!FTU~%)n4~4!API~%%M8~4!?KMOD~)2/10~4!GWEAK~'2Y~%eF~5'-^&%4b~%!m4~*qr~*2-~%%XAR~%MQ~40%T~",
    "(+MEX~+/a2~.0hP1^/%>b~10nP~'0M~'g/~+!n^?%E*\tvd^2&_v~(!<^4&_3vd_^*%Fo~+!8cn^0%0|vd_hash~2!9aux~2!8next;`~)UiVerdef^A%FB~2&9~+!<^4&[*~-&9~+!8~*&9^(%)w~.&9~+!9~*&",
    "9~+!8~,&9^&&fe~&&9~*)GVER_DEF_^/&VZ~(!:^2%t[~)!UUM\t2~/!pFLG_BA~%.71~1!<W~&[o2~+%N\tVER_NDX^'%AD~*%P~)!<~'7a~*%P~+!W^6%oH~)!EELIMIN~&nA^&%nr^A%0lvda^4%vg~%!:~2*",
    "2~%(E^?%/>~/!y~-!:~2(r~&!y~C-Kn~8-Kn~4,vn_file;`~1!:~3,wn~3&hneed~C,xn~8,xn~4,I~.%g~+!:~3,Jn~3'S~'%g~.+VNEED~&,L 0~2!<~',N 1~3!XUM\t ^D&%6vna~/0r~'&ba~61vna^0%V",
    "a~)!n~4+>n~4+>n~F+>~.%l~*(Pa~61N~/%l~,!n~4,1n~4,1n~),1^:%Cn^)&v?a^)%8S~2h7~+!I~%h4``~'gwa~-iLauxv_t;~9%764~D%7~'!I~9%764~*%7~*+4A~2i6AT_IGNORE~+3RA^&&b%F^,%c=A^",
    "(%7O3~.!6EN^,%/B~%!6NU^,%/>AT_PAGESZ~+i2AT~&4B~+i2A~(cL8~-%WNTRY~+i/A^&%9SLF~,i0AT_UID\t~,i.AT_E~&!7~-&=G~%!6~-&=E~&!7~-&>CLKTCK\t17~.'f^)%1w1~-&ZHWCAP\t~&O%~-&",
    "KPUCW\t18~.!9DCACHEBSIZE~,i;AT_I~+!=2~.&Z~,!=1~/%6~&)=PPC\t2~*t)\tAT_SECURE^-&_v~'(L~)&F ^,&4gAT_RANDOM\t25`~1&_2\t26~.%IRSEQ~)a;~&%o7~1!DALIGN\t2~/',~%!y3~,iS~",
    "(!84\t30`~1+dN\t3~0&vSY^'%7J2~3!9_EHDR\t33~/!XL1I_~%'vSHAPE~,iR~%!AD~-!A~-)gL2~-!?~-,NL3~-!?7`~9%FIZE^,&dO~,!?GEOMETRY^,&dV~-%h~%!c2~5!?~*!c3~5&/IZE\t^,&ds~+!?~",
    "*!b5~5&O~&!b~5&n~*!b7~-&nMINSIGSTKSZ\t\t51^C%sg n~%5;^0%Jy n_desc~3!:~&3R~(42N^D%Jy~0%2~*!:~-%2~*!:~+%264~(%2^.%R=~%1l^)&ut\"SUNW Solaris\"~4!NGNU\t\t\"GNU~5!BF",
    "DO\t\t\"FDO\"~6%7~%4&IZE_HI~%El~*!!~(!ON~&gCABI_TAG^.%u*~&!kABI\t~.!J~5%:OS^'&xs0~5!?~%&D1~5!>~''42^.%v8~)!C^(&xU3~7&6~&4,2~3!=BUILD_ID~-_J~'!?GOLD~(bu\t4~2!D^(",
    "%Jf_TYPE_0 5~/%/FDO_PACKAGING_METADATA 0xcafe1a7e~,!S~')I~*%!^'%ef_NAME \".note.gnu.property~.)O~.!bTACK~&3t\t\t1~7!INO_COPY_ON^+%b12~9!|UINT32_AND_~%oOb~0vP~8!",
    "R~%kTb0007^/%K?~4!UOR~*%-8~A%-OR~*%,^0%zs~,!S1^(%+6\t~9%C`~A!c_IN~&[B_EXTERN_ACCESS^(&)[0)~8!h~'z0\t\t0xc~)Vy~5!N~'z=\t\t0xd~(iJ~8!|USER~%!Ne~A!|~)!Nf^3&&F~,!O^",
    "'&Vj~*x'_A~%aU~?&1~2![BTI\t~*'>~H!YPAC~(!Y1)~9(eX86_ISA_1_USED~'('1~/Z5~7!V~(*/~&&N80^,%6y~1!W~.',~*'-2~D%nBASELINE\t~+'-~C!ZV2\t~-'(~A!S3~)!S2~E!S4~)!S3~>%a~*&",
    "yIBT~.&>~D!X^&%Hb~,&D~9;8^&%79m^4&-5 m^3&Oo m_p^0%flHalf m_repea~2!:strid~+;kMove~<;k~4%e~+!:^3&NK~1%g~'PG~0%g~*!:~-%g64~(%g~,8m32_M^&%ktnfo)\t(~&!+^5%maM~%5x~)",
    "!M^0&'F~%!;~2!X^*%mksiz^&&&l^.%mj~0!o~%!K^1%mq~,%x~+&2~'%G~2!Q~*&%~,&8~8!S~0%x~,&8 ~+!<~.<3EF_CPU32~&m9~&ox~+!CR_68K~0d;~&!8^-'?1~&!616~+=b~&!68~,QZ~&!6PC32~+Q]",
    "~(!816~+Qa~(!88~+Qa~&!7GOT32~+Qd~)!916~+Qg~)!98~+Qi~+!hO~,Ql~+!j^-';U~*!lO~,Qt~'%oLT32~,Qx~)!:16~,Q|~)!:8~,Qc~+!kO^,%>/~+!l^-%_w~*!mO^,%>7~&!:COPY~,Qx~'&3LOB_DA",
    "T~,Qx~&!=JMP_SLOT^,%>D~&!=RELATIVE^,%>H~&!=TLS_GD32~&Xb25~5!C16~'!C6~5!C8~'rd27~3!CLDM~'%-28~6!C~'%-29~6!C~'%-30~5!CO~'%,31~6!C~'%,32~6!C~(%,3~3!CIE~('>34~5!C~(",
    "'>3~4'aIE~('>3~4'aL~*%,7`~5!D~)%-8~6!D~)%.9~4!DDTPMO~%)X40~6!CREL~%!C~4'd~)!B 42~10lUM\t43~.1NR_386~'hv^,&]<~&!;32\t ^,&]9~&!9~%0f ^,&]:~&!;~&0< ^,&]<~'!UL~'!<4",
    "~/!<~%-X ^,&]D~'!q~(-Z ^,&]H~&!?~)-] ^,&]O~&!?~)-a ^,&]T~)%qOFF\t ^,&]Y~)!=PC~%&h~2''PL~%%81~0'+~&(?~'!x14~3!BI~%%V^,'C_~*!?GOT~'!C6~4!CL~&!?7~5!bD~%!?8~5!]DM~%",
    "!A9~1)d16~%)0~0&]~%5w   2~0&[8\t~%!:~0)ePC8~%!;3~5%l~'*[~,bS~-!CPUSH~/25~+!BCALL~%24~7!dOP~024~+&v_~%,z2~8'=~&%K29~7!B~%%K~,bz~/!dOP~/22~*!BO~&%J32~5*-~''933~6)",
    "i~(!C~5'Y~)0;35~6!BOFF32~.2/~-+u32~%2.~.!BSIZE~'%F8~6+tDESC~%2'~3%EESC~&'U40``~7!E~%2j41~21EI~,/%4~50tX~%!>3~22+U~%,_44^0&=/T^&'JE_REGISTER\t13~/A?^''Jh_M^-&CK~",
    "+!<TSO~,pz~+!=PSO~-[8~*!=RMO^-'T1~'!=_LE^&']J^(&cK~2!FEXT^(%iaFFFF~4!G^''Oz^)%6I~2!FSUN_US1^)%6J~2!FHAL_R1~'!k4~:!k3^)%6L~.)/~&!H^0&Lc~(!;8~,'>~(!816~,':~(!932~",
    ".Dj~&!9DISP8\t~-Dn~*!<16\t~-Ds~*!=32\t~-Dy~&!=W~%!>0~,tg~-!>22\t~-E+~''JI22\t~-E.~&!;22\t~.E-~'&Z3~-tz~(!:LO10~-u'~(!<GOT~%!=3~5!=3~-u4~+!=~%%N~2'!PC~%!t~2&|PC~",
    "%!V~3&yPLT30\t~.E>~&!>~%:d~.EB~'%P~5ED~&!?~6EF~(.Y~4EH~&!?UA32^&'WB~2+6~&<[^+%by~+(tPL~%'32~2'3LOPL~%(/2~4'6~(!|7~6!?~%!|8~6!?~%!|~2'=10\t\t3~3*<1\t\t3~2'364\t~",
    ",uV~(!:O~&*U3~2*:HH22\t~,uN~)!<M~%!V~3'(M~%!V~4'%~(!u~4'%~(!x~4'%~(!|9~6-u16^-'[R~.!?9\t~,uz~-*|JMP~,uz~(!?7\t~,up~(!95~-uj~)'|^-'[e~,0A64~-u_~++,~%!=~2'*HIX22^",
    "-'[v~*+*X10\t^,'[|~)!X44\t^,']'~(!;M~%!;~30D~%!;~2&r~)835~2&xUA64^-']8~*!<~%3C~2'&~'?[~%2O56~8!C~%+K57~8!CADD^,']]~/!BCALL^,']j~,!CLDM~&%L60~9!D~%%M61~9!DADD^,'",
    "_4~0!C~%%O63~7!DO~')L64~9!E~&)S65~9!E~%%Q~6'gIE~'&[7~8!C~&&Z8~9!CD^,'a.~1!AX^,'a7~/!BADD^,'aA~-&1E~'&v7~7'cE~'&u7~6'c~(DI^,'ah~2!D64^,'au~/!D~%DN^,'b)~2!D64^,'b",
    "3~,!D~)!f8~:!C64^,'bH~+9YDATA~''&80~9!E~&''81~9!EOP~(!l2~<!H~'!o3~;!H^,'c8~)0e34^-'c<~(!;~'Gt^,'cD~,!>64^-'cK~.4C0^-'cS~,;&IREL\t2~32[~*Gh2~32bGNU_VTINHERIT\t2~",
    "32l~&!F^&%8e2~32tREV~%:P52~3D*^&'Ec~-<3D~1HN^)%v;1~2!I^+&ny~,EZ^&%v0ORE^&'*u1~1!?PIC~/H;~%!:C~%!;4~1!;XGOT~,Cg~(!;UCODE~-Ac~(!=ABI2~-;x~+!<_ON3~-1s~(!?OPTIONS_^",
    ".%bd80~2&X32BIT^'&3s^)%b)~3'+F~%9951~2%XNAN2008\t102~2%YARCH_^&%P,0f~0zK~0!I_MDMX^,%YB~;!N16^,%Z2~;!MICROMIPS^,%[*~5!S\t^7&OJ~-!z~(L4~1Mo~*!G2\t\t^2%[9~.!G3\t\t",
    "^2%[9~.!G4\t^&&Cc~;!G5\t\t^+%[_~6%8~%%_5~=!H64^5&XI~/!oR2^5'+B~.!p~%!I8~A!q6^&&:Z~>!q6^&&:>~7!IBI~((]F~6)PBI_O~&'!0^0%i2~-!H~&'!0^(%i6~5!IEABI~'tM003~8!rEABI64^",
    "3%ie~)!JMA~&+<00FF0~8!E_3900~,uh~5!I401~'!I2~;!I1~(!q3~:!IALLEGRE~%.S084~;!u65~'!u5~<%C2~'!I7~<!I1~&VU88~:!ISB~'!Ha~:!HOCTE^&%ik08b~:!KXL^&%l58c~A!r~'z9d~A!L~&X",
    "'8e~:!L54~'(P9~;)F5~()n9~;)FIAM~%.2009~;)G55~(!r~;('90~(!I9~:!ILS2~&6HA0~=!I^&%p|A~;&[GS4~'-AA2~?!J~'%B~;&_GS2~)!K4~152~.51~.5B~5!J2~/!J2~5!J3~/!J3~5!J4~/!J4~5!",
    "J5~/!J5~6%B~0%l3~6%m6~0%E64^0'Y;~&!?^+'V]^/'Xh~%!DTEXT\t^(%hX~1!B~(ezff02~2!BS~&%+ ~&!E3~3!EUNDEFINED~&!G~/%v^'&:b^*&2U^5'LI~&*.SYM\t~4Bc~)!F^+&3m~'!I2~2!IGPTAB",
    "~+!o3~2!G~'B(~)!G4~2!G^&&DD~*!G5~2!GRE^(&g!~'!H6~2!H^&%GME~*!H7~6!H^&&27~'!H8~4%;LD~+%a9~2!FIFAC~,&Pb~5'jT^&&:o~'!Hc~2!H~'DM~*!Hd~2!HSHDR~*%91~3)KFDESC~+!G~3)LE",
    "XT~-)s1~3)KDENS~+&P1~3)KP~/%9~3)KLOC~.%9~3)LAUX~.!H6~5'C~.!H7~6%;T~,'E~3)L^&%Ae~)!F~3)LR~0'ka~4'DLTA~,*f1b~7!IIN~+.U1c~7!J^&(Sz~)!K~3)zDWARF~+%he~7!qDECL~*!Jf~3",
    "*oYMBOL_^&&/4~&!K2~3*tEVENTS~*%A2~3*uTRANSL^&%wK~'!J~3*wPIXI~+(G2~3*wX~%!l~*!G4~7!G~'0M~)!L~3*|WHIRL~+!r~3*zEH~%0u~%5D~'!J7~8%AOLD~*!J~3+&PDR_EXCE~%/A~*!N~3+.AB",
    "I^&%l.~)!I~3+/X^&&W[~)!Gb^0']R~'4IREL~5L]~)!G^&'[m~4L]~)!GAD~&1(4~9!F^(']:^5'aY~)TuSTRIP^3&0%~*!H^(&'&^1&0h~+!nAME~&zW2~:%9DUP~%&P^)&2C^/%%xO~(-7^&'=[\t0x0~2!B^",
    ")'=f^-&)F~)!C^''=n~%'f~2!B^*%Xi\t0x3~3!DLT~%!b8~2!>SC^&%l[_UNUS~';H^/'Gv~&!LPLI^)'DT^'%(:^)(pOnion`@` ^(%K<^7&dsgt_current_g^*%KO~2!Iunus^&'[)  $ gt_head^&%yX~B",
    "%0~=%(bytes~+%'^'(k;^(%Megptab;^C%igri_gprmas^/(%F ri_c~&!<[4]^/'?|~&!Z~(%q^*'A&gI^''T1^B(nW kind;`~1!:^.'bu^''Wx s^)(u0~-%v^+'Cf_Options^-%zBODK^&%zC0~-!6~(>w1",
    "~-!9~)1CS~+b%ODK^&(aF3~-!6HWPATCH~+b6ODK_FILL^+%)qODK_TAG^,(eT~&!cAND^+%)c~&!7OR\t8~-&6EX_FPU_MIN\t0x~+7M~)!<AX~%!<~+/OOEX_PAGE0~(2C~-!=SMM~)28~/!uD~&6-4~1!>PRE",
    "CISEFP\t~*!M~-!EDISMIS~)2K~2&;INVAL~%%c~1!>DIV~%O!8~1!=OFLO~%2W~1!=U~'!=2~3%8~&Uf^-%5<OHW_R4KEOP~-1m~%!:8KPFE^&&q_2~.!=5~'!U4~0!:CVTL~%1Z~*!<PAD^*'&[1~/!;OST~&!",
    "<2~.!<~&<g~%%1~B/'hw^''BD1;~7!<2~/-2_Hw~.-5HWA0~''.^&&cDE^5&AdOHWA1~)!LLEAN^/&Ag~(!MR~(6l^0%45~%!:16^.%45~'it^.%44~(IH^0%46~%!;26^.%42~'6t^0%4/~'9716^.%4,~*;W16",
    "^.%4+~'EATERAL^.%4*~&!XOT16^.%4*~&7YC~%&O~1&hCAL~%%211~5%N32\t\t12~1'aSHIFT5^/%38~*!=6^/%39~%!=64^/%34~(&+_DISP^/%37~)!?PAGE^-(i?~+!?OFST\t^.%37~)!?~&(=22~4!?~&",
    "(C2~1)2SUB^/%34~'<MSERT_A^/%34~,!?B^/%34~(GfETE^/%32~'*2GHER^/%30~*!=~%&R9~4))~&&S3~5)F~&&S3~1'5SCN~'(53~4,A16^/%3=~(C?_IMMEDIAT^-&,r~(+&JUMP^/%3E~(!y~%u73~1'6J",
    "ALR^/%3B~&It^,%'138~7!C~&+g39~:!e64^.%3K~/!e64^.%3N~)!CGD^-(n2~+!=LDM^/%3Q~/!|~&(f44~;!F~%(l45~5%IOT~%!H^.%3p~)!C~(&s47~9!B64^.%3x~.!B~'%q9~:!E~%%p5~2.7^(%=j^.%",
    "44~'1'21_S2\t^.%1K~(!>6~&!>~3!Z18_S3\t^.%1B~(!>9~&!Z~1(<PC~&/N6~2+WC~'3n~0(,16~%4_^,%HM~)!<~'Li^,'ET~*!?~&3r^,'EW~)!?~)3[03~2!A~&%u^,'E_~)!>~&%v^,'Ea~)!>~(+P^,'",
    "Ee~-!ALDM^-(f%~-!A~,+U^,'Eq~4!I~%%U^,'Ey~.%T~(+[110~6!F~,%:11~<!H~&%91~3'lPC16_S1\t^,(ft~(2E^&%FK~23xJU^'%F/~&J5  1~24*^)%.1\t1~/4-^'%&U_2~&%H~/2o~(!B~&&R~/2l~(",
    "!A~&&K~/2p~(!A~(;11~/2v~)!d~';71~/3&~)!g~%+G13~6&1PC7~&&29~7!C10~%!D~/3&~+!D~&&v~/3'~(!D~',T1~/3,~+%o~&6o145~9!E~%;.146~9!E~%;314~9'&~'(Q48~9!E~&(U4~6'+~%;C15~6",
    "'(~':K151~:!CST\t152~9'H~'%r53~:!F~&%s5~6*m~):d15~6'p~%9N15~6'lHI0~(%.~6'l~'0w162~9!C~%0y63~9!D~-1!64~A!L~&%b65~:%b~)1*66~9!I~-%D9~?!KL^0(k.~1.a7_S^.(k!~.-623~&",
    "!D~37A~%Hv~2:'EH\t^/%;:~&%<^&'fX1~%8v2~39t^/%;Z3~6!E^(%;Y4~2K1^&%;<^-&=MP~/sI^5(FH~)!IT^0(Fo1~1!H~(qh~+!I2~1!I~(fJ~+!I3^/'f0~+cv~+f%^.%=O~&%h^*&AO~5%l~(!LTIME_S",
    "TAMP ~5%o~(!LI^('5w ~,!L3~2!L~)%E~,!L4~1!L~&i6~.!J5~1!JBASE~%h'ESS ~3x)D~,zU~.!t7~1!I~(zX~.!L8~1!L^*(Pr~,!L9~2!LOCAL_GOTNO~+!La~9%HNO~,!wb~8%H~%!K ~3wwD~*qMTAB~",
    "&!K ~3x!~(!LUNREFEX~.%H1~2)[GOT~1'j1~2)ZHIPAGE~0%G4~5+RMAP~/!w~2)3~%t=^&)M3~+!L7~<!L_~/'D8`~7!RINSTANCE~-!R9~?!Q_NO~*!Qa~8%*RELOC~+%%b~<!L~-!zc~8!zSY~-.11d~;!M~",
    "-!ye`~<'VSYM ~+wy~?!O~,%(21~2!RCXX~&/<~,&&2~2+%~%x-_INIT~,!L3~4,J~'yv~,!L4~6.BPAGE_GOTIDX ~3x<~1.q~-!L~2+S~&qs~1!M~2+T~)r&~1!P~20n~*5v~,&M~2+M~%sgFA~.+x2~20nDYN",
    "STR~&ro~*!Lb~:!w^&&<2~)!Nc~5.yTEXT_RESOLV~&4=~*!U~3+OPERF_SUFFIX~+&'~3+O^'(ud~/%Sf~21LP_VALUE~-'M3~22sAUX^(()[~+!L~3+r^''Wn~.!w2~59RWPL~)L)~)!O4~8:(MAP_REL~+!O5",
    "~2!M^&%%K~.!y~2+G^'&!E  0x^&&f/~)=uH^''(8^/&2nHF_QUICKSTART~%!A^1(&F~&!bTPO~,!D1~0!D_LIBRARY_REPLACEM^&)l=^/(&g~'!PMOVE~+!t3~.!ESGI_ONLY~+!F4~.!FGUARANTE~&01\t^",
    "4(b=RHF~(1W_PLUS~%!(\t^4(bD~.!x~%'0~(14^1(bKRHF^(%-d~)!C8~0%EFAULT_DELAY^&(1'^4(bNRHF_RE~+(P^5(bT~0!JE~+!t1~/(XCORD~,(y~2(KUNRES^'(De~*!L~/(RRLD^&(b2_SAFE~+!L4^",
    "C(98 l^3'%* l_time_stamp~1!>checks^,)ny~'!<^1'+<~'!;^/(UmLib^B&jUl^3'%'~4%i~*!>~/%i~*!<^1'+>~3%i64~'%i~+.]LL~).[0~,!8EXACT_MATCH\t~3.XLL^'&vG_I^&'l[~2.[LL~&*NRE",
    "_MINOR^3(lD~%%7PORTS\t~3.OLL~.,/~1.N~&!ETA\t~+.C^1(DrAddr~'!.Conflic^5''V^.&U<~)'y^1%)Lisa_level~7!?rev~3!=gp^&**R~3!>cpr1~;!?2~8!?fp_abi^1%*msa_^&'+o~-!:ases~0",
    "!7~5zM~.zI~)NClags_v0~-zO~&!AFL_REG~&*s0x~+Oz~-!C^'%[_1~6!B^'%[W2~6!B128\t0x~.Of~)!EASE^''x_0~0O:~0!H^'%Tg~/O8~-!JEVA^4'N]~-!HMCU^4'Nb~.!H^'%hR~0Kn~.!IIPS3D^4'N",
    "k~.!KT\t^4'Np~-!HSMARTM^'%hr~&%l~7!NVIR^5'O)~.%CSA^4'O/~1&9^&%ji0^/&8V~/!K^+%jd0^/'O=~-!NXPA^4%e3~.!u^&&;0~%!I^/&pq~)!LEXT_X^&)*W~6!A^(%]l^,&L|~3!EP^-)/E~-!ELOO",
    "NGSON_3A^,&M6~3!l^-)/b~-!D5900^-)/h~-!B4650^-)/q~.!B010^-)/x~.!B1~%%)9~6!B3~&%H~4+pEXT_~%Yg^.)09~-!DSB1\t  1~7'e411~%!C~7'c4120^.)1%~.':4~&%K~8'Z5~&!C6~?(l2E^-)",
    "18~7!IF^&&NT~2!K~%O<1_ODDSPREG  1```enum~&6dVal~%bn~(3S_FP_ANY = 0,~8!DDOUBLE = 1~9!G^&'SH = 2~:!GOFT = 3~9!EOLD_64 = 4~9!GXX = 5~9!C~%!e6~;!CA = 7~9!DMAX = 7`$",
    "^0*.3F^')ub_TRAPNIL^3'Y]~+!I^'%al^0'Y_~+!FLSB\t^3'Y_~+!FWI^&%]D^0'Yc~+!GNO_KABP^,'Yj~4%:AZYSWAP^3'YO~+!J^(%y50^*'%j~+!JA~(!K1_0~%FY 0x02~+ar~-!G1~*!G~+/-~+!G2~,",
    "!m1^1%f)~(%fNSI_^.%f/~4!KHUGE~-!K1^0%e*~.(m^5%e)~'!GUNWIND^8%e,~'!IDO^+%Y7^.%:sSH~)(!SHO~%8<^5%Q:~+&6^9%Q<~(!oBP\t^,%Q;^/&QQ~'!JMILLICODE\t13~.!EHP_OPAQUE\t\t(^",
    "((oY + 0x~+F8~'!LSTUB~0!J2^-&zER~*+S^0%=V~('EIR32^.%=[~*!=21L^.%=d~*!>17^-'GH~.!>F^.%=m~+!>4^-([U~)!>PC^&%1K9~7!>21L^.%=*~,!A17R^.%=-~.!AF^.&N<~-!A4R^.&N%~(&%P~",
    "(%D8~7!A14R^.%;w~'!AG~(!a26~7!A14R^.%:+~(0*TOFF21L^.%9+~,!A~%!a~3%dSE~''i4~3',SEGBASE^.%56~*!?~'!_~4(L~)%d50~8!B14R^.&EJ~,&*_FPTR32^.&Dk~1!E~%%08~<!F14R^.%5F~'!",
    "FFPTR64^/%5,~)%rAB~%&V^-%!T~-!A21L^.&C9~-!B14R^.&B2~,*f64^.&Ah~-,-2F^.&AB~.+HWR^.&A?~.!BDR^.&A=~-!B6F^.&A:~.!AWF^.&A9~.!BDF^.&A8~*.q64^-*&g~./4WR^.&?9~,!?DR^.&?",
    "7~+!?6F^/&?;~,!?WF^.&?<~,!?DF^.&?=~,-k64^.&?=~../WR^,*&M~0!BDR^,*&T~/!B6F^,*&W~0!AWF^,*&c~0!BDF^,*&i~.,A64^,*&o~0/SWR^,*&O~0!BDR^/%=1~-!C6F^/%=3~.!BWF^/%=6~.!CD",
    "F^/%=8~-1&64^/%=;~-0c64^/%:M~/0CWR^-*!w~1!DDR^-*%*~0!D6F^-*%4~1!CW^.*%<~1!DDF^-*%J~31,64\t120~>1OWR\t123~>!HDR\t12~=31~%&I25~>!GWF^/%=n~3!HDF\t^.%=n~(!H^)'oP^.%",
    "=p~'!C^(%>x~3!>IPLT\t\t12~3'RE~&!>~484^(%If^.%8'~,!A~%9u~46LT~(981~:6&TP~%!f62~:!E~%!i66~<!EF^-*%8~.%Q64^-)r;~0%qWR^-)qm~0!CDR^-)qx~/!C6F^-)r(~0!BWF^-)r2~0!CDF^",
    "-)r<~1&T64\t2~:+FTP~&&827~<!F~%&;~;(R~&&>9~<!EWF\t2~9>W~%!FDF\t23~44o^,%7j32~8!E^)%8U3~4+:LS_GD~%AP~4?n~&!C~%B735~8!CCALL\t236~6!DLDM~&%.7~9!D~&%/8~9!D~'%09~8!E",
    "O~%%040~9!D~%%0~4Bl^-%We242~<!F64\t243~9!F^&&Z4244~<!F~%!k~7'tLE21L\t~100~8!Q14R\t~10?~6!QI~.%)~+0O~8!T~-%,~+0a~6!T~(2Q~02e~;!R64~/!R~4Dl^*)pj^2%A8HP^&)-r(P~+NX",
    "~+se~&!GCORE~'NW~-!M1~5!M^(']I~-!O2~5!OKERNEL~.!N3~5!NCOMM~/%N4~5!M^&'VS~-!M5~5!MLOADABLE~.!P6~5!P^&)-p~-!M7~6!MH~0%y8~5!LMMF~/!L9~0!LPARALLEL~0(H~1(uFASTBIND~0",
    "!M~1(uOPT_ANNOT~0!N~1(tHSL~6!N~1(t~&'B~/!J4)~-+<~(ZDRCHEXT^7)0e~9YJ^.%G]~.X1^2&[aPF~&'gG^''to^3(>/~'!HFAR_SHAR^5(>4~'!HNE~.!I4~4!I^(&CF^0(=k~'!CMODIFY^5&09~&!E~",
    ")bt^4&1+~&!G~1&n~0euALPHA^&&c_^/'1U~&!=CANRELAX^/)VxSHT~'!E^0&EA1~3!H^1&EB~1_w~&!L^2&5Z^.&2]~&!JNOPV~&_R~3!ASTD_GP^'(>A88~.]P~(!g~0]O~(%yFLONG~.]P~)!>QUAD~.]P~+",
    "&/^0%y;~&!>^)%x34~4!>USE^.%yE~(!w^&%r26~1!=BR^&&877~1!=HIN^-&jd~(!;S^'%ri9~5!=3^0'1S~*!>64^/%yL~+&kHIGH^.%xp~+!ALOW~.]|~+!?16^/%xv~'+9~%I'2~2'L^*'0L~2'N^*'0L~2'",
    "P^*&qG~2%x^)'&>^.%wa~)!AGD^/%w_~*![LDM^/'.q~'-0~(>93~3'YOT^&%[V^.%wa~)!_~&(>33~7!?HI~.bU~,!?LO^.%wc~,!?16^.%we~)%_~'%]~3'?~'%[~.cT~+!?HI^/'//~+!?LO^/'//~+!?16\t",
    "\t41~3.dUM\t\t4^,(-a~&-C~'!C~%,q0~6!?~%dr1~7!?YTOFF~+/.~-!BJSR~+/.~-!>~&*E~+/1~1!BLDM\t5^/(_M~%!APLTRO\t\t(^)(qH +^,%7;~)!L~%&r1~1vbPC_EMB~/o6~/!ERELOCAT~%=i~7w",
    ",~.!J_^*(W98^1'd=PP~5nkPC~%(K~1ni~'!;24~/nf~'!;16~/nc~)!;_~%*E~6!>HI~.34~,!>A~/o&~(!>4~.33~*!;_BRTAKEN~-3:~-!CN~&!D9~/!DREL24~/3=~'!;1~03:~)!;~)%=12~7!C~'%=1~0'",
    ">^(%zL4~4!;~%'V15~5!>HI^/&1i~+!>A^/&1jPP~%]T~(&W~0':^3'B&~%!t~(4Q^.&1iPP^+'A|^.&1h~'&p~&4O~/qkPC^&%Tm24PC^/&1gPPC_U~(+?24~4!=16^/&1h~'%:~%!V6~2&j^1'Aq~*'*3^0'Ap",
    "~'!>~'(C29~5!>~%3!0~6!>A^/'AwPPC_SDA~'2z3~0'.SEC~%1u~.5x~+!=_LO~/tR~+!?HI~.5x~-!?A\t36~1/c~%NE6~0'4~)Ss^.'7%~%!U~(5569~6!=_LO~/qi~+!?HI^.'6v~-!?A~/r-P~*c7^.'6l~",
    "'%v~'%Y74~7!>~%%Z5~8!AHI~/rD~-!AA~/rD~)!A~%%_8~2.6~&<R16~/r?~.!A_LO~/rE~/!DHI^.'6S~1!DA^.'6O~+!DLD16~/s1~.!A~%%M4~;!DHI~/s9~0!DA~/s=~(!D~'(a87~:!A~%%M8~;!DHI^,*",
    "vB~3!DA^,*vL~*!D~)*391~;!B_LO~/t1~0!EHI~/t5~1!EA~/t8~&-qGD\t~/t2~&!;LD\t\t96~2:4EMB_N~'2]~/sI~,!B16~0sH~.!B_LO~0sJ~/!EHI~0sM~0!EA^/&4n~(!ESDA^&&4(6~6!A2~&!B7~7!",
    "BREL^/&4h~,!B1^.*w+~*!AMRKREF^/&4X~(!ARELSEC^1&4S~,!CT~%':12~9!CHI^/&4P~/!CA^-*wT~*!CBIT_FLD~0vd~+!dDA~%va~0)nDIA~'&s~%%n~10,~+!DHI\t1~10,~,!DA\t1~10,~%!D~&%P~&",
    "%03~;!E~%%14~<!EA\t185~1&AI~+;L48~1!C~'4k^.&*K~)!<~&9x5~4?z~&9y^.'BX~+!?A^''BY~18DOC~&<2~/GW~'/6~=GSPPC_OP~0!H1~1!H^)'C&~(!;~'!_~&9p1~0%g64~'Fq~*G%~1!E~(>_~,G2~",
    "5!I24~,!I~0?7~'!I16~,!I~0C4~)!I_LO\t~/G]~8!NHI~.!NHI~9!NA~/!NA~6!N~-&D1~7&D~*Fo~4HG~:!XN~5!YN~6!Z~'F)~+Hm~4!G1~,!G1~7!G~/&*~-!7~9!VN~4!W~7&'~'IF~+HY~6!G~*)[~(!2",
    "~7!L~))Y~(!2~8!LA~.!LA~2,l~&Ia~*Im~2!q~(Ik~.Iz~1!L~)Ix~.J/~4'l~&1Z~.J<~2%mU~..:U~7.;U~.-oU~7-p~'C0~+JG~1!G~'JE~+JR~4!G~)uF~+Jb~4!L~,)O~(!2~7!L~))O~(!2~8!LA~.!L~",
    "3)O~)Jm~-J&~8!K~*%u~*!4~9!P~)%y~*!4~:!PA~0!P~6103^.+Jp~,!>~1_L~/2jGHER~._Q~3!EA~._W~2!FST^/%Es~3!FA^.&YH~++O64^/&YI~)+D~%!=4~4)H~%!=5~7+164^.&Y5~&!?~'9b47~6!=_L",
    "O^/%Gt~+!?HI\t49~8!?A\t50~4!?^/&Xy~)%u~&2U52~9!?_LO^.'l9~/!CHI^/%Hq~/!CA\t^,+Y>~/(fDS^.'lE~/9V~%!D7~73BDS^/%IP~-4Z~%!C9~9/N_DS^.&[s~.,tDS^.&[v~0.>~%!E2~7(XDS^.&",
    "]%~.)X~%!C~;'YDS^/%J|~0(e~%!F6~3?!~5V264~*mI6~3+)~8V5~*!?~4V7~+!B~3V9~,!B~2V;~(!B64~2V=~&&)~&%f74~9!?~4VA~,!C~3VC~-!C~2VE~)!C64~1VF~&+-~9VH~.!C~4VJ~/!F~3VL~0!F~",
    "2VN~*!F~5VP~.!C~4VR~/!F~3VT~0!F~2VV~(!F~''sDS~1V[~/!F~%,1 88~=!I~3Ve~0!F~2Vg~'!FD~+%]91~>!G~&%_92~>!J~3Vs~1!G~2Vu~+,zDS~1V|~-.(~%!E6~;.+~%9G97~?!FA^,+RJ~5!GST^/",
    "%P-~4!GA ^/%P3~.-[DS~2Xh~..h~&!G2~<.l~%&M~1Xp~2!HA ~1Xt~1!IST ~1Xx~3!IA ~1Y)~&3Z^&&m7~3(0~&[y~1X|~&5JSAVE~&X|`~<=J~2Y(~.!DA~2Y*~/(i~2Y,~/!EA~2Y/~0'&~2Y2~0!FA~%Y",
    "7`~5IE^''w>~2'J^,'w>8~5MI~4Vs~(!>_LO~2Vt~)!AHI~2Vu~*!AA~(Vv~0|'64_ABI^.)]&T~)L<INK  ~>Vz64_OPD~?V|~&!ISZ~.!K2~5!KT~.!I3~3!IN^&&[q4~.Ww~&!e~(Wy~2!<MULTI~%Bl2~3!B",
    "~%ux^&%M%4^/%5]~&!I~%!E_BIT^-*eX~.!BMASK\t(7 <<~4!_)~/%G~&!<~%%D_OFFSET(other)\t\t\t\t\\` ((^&&:A((~'!; &~5%B) >>~5%?~%!<2)^)(qs~.*)ARM_REL^&+zd^-&6X~'!AHAS~&'8",
    "^.&6X~'!BINTERWORK^.':?~'!BAPC^&'4W^-':z~,!AFLO^&*|E0~0!CPI~%%d2~1!<ALIGN8^&%w9~0!?NEW^('t/8~1!AOLD~(!A^/(J.ARM_SOFT~)%b2~2!DVFP~)!C4~2!CMAVERICK~)!H8^/&&E~%&6B",
    "I~&!D~%%=~6%7~*!HHARD~'%<~3)4SYMSARESOR^')_5~1(R^&+=;SUSESEGIDX~5(ZMAPSYMS^(((L~2(]EABI~%,V\t0X^&'uz^0%0!ARM_BE8^(&'30^2(O/ARM_L~+!F4^2&)k~(%:^(%MY(flags)\t(~'!",
    ", &~0%d)~5!fUNKNOWN^7(&t~,%51^4%Eq~/!H2^4%Et~/!H3\t0x03~>!H4^4%FB~/!H5\t0x05^3%D?^'*>MFUNC\t\t^**qq~1!F16BIT~&!F^&),U^0%EXRM~&1HS^&)hG^5'W:ARM_COMDEF^8&)0P~'+XB",
    "^.%FI~/!CPI^5'X&~'!B^'+JI^3)dtP~&&HEXIDX^(%Mu~*78^/%I!~+!M^*+>&~.7f~(!LPREEMPTMAP~/!P2~2!P^*+E9~/!P^&))A~+:K^().)NONE^(&[<~%,l~5!JP32_ABS32\t^-&?b~.!E~&fB~.tt~,",
    "!D~)fA~/tx~,!H^)'/.\t~/u%~,!I~*ss~.u(~,!H^*%a=~/u,~3!I~%zC~-Lg~0!I~&!H^-+h6~1!I^&'j81~-Lk~,!G~+v*188~5(:ABS64~)(b257~6!H^((s&~%!H8~6!H~&u[9~4%]~&RD260~7!A32\t26",
    "1~7!A16\t26~4(pMOVW_UABS_G0\t263~?!G_NC 264~>!J1\t265~?!G~&!p6~>!J2\t267~?!G~&!p8~>!J3\t269~8!GS~('%70~>!G1\t271~>!G2\t27~4(:LD_^(',Q9\t27~4(:ADR~(!H21\t274~<!H",
    "PG_HI21 275~D!K~%'L7~4(AADD_ABS_LO1~&'u7~4(DLDST8~/!L~4(FTSTBR14\t27~4(ACONDBR19\t2~51LJUMP26\t2~50wCALL~%!A3~7%r16~.%s~50tLDST~&3K~+!M5~7!M~&.p~+!M~9,0~%(>G0\t",
    "287~?!G~&!p8~>!J1\t289~?!G~%!p90~>!J2\t291~?!G~&!p2~>!J3\t29~9(M2~/*F9~9&7^&)%)_G0 300~B!I_NC 301~A!L1 302~B!I~&!t3~A!L2 304~B!I~&!t5~A!L3 30~4*cGO~'r:307~9!C32",
    "\t308~6!C~(1-19\t30~4(BLD~&!M~&mw15 310~70[^)'Bi311~;!q~))b312~;!KPAGE~(%B~4(A~%[3~)2*21 5~5!v~+!KAGE~%!K~<!uD~)%q514~9!L~&(s1\t515~?!H~%+S516~6!KL~/&<7~>!K~(&<",
    "8~;!K~,&<9~9!L~)&<20~?!H~&&<21~9!K~)*p 522~>!t~&A__G2 523~G!O1 524~H!O~&&%5~G!R0 526~H!O~&%(~<(tD^+'FM2 528~E!PLO~%!P9~I!P~%%W3~:)0~&:G~-%,31~K!R~&%.2~=!U16~/%/",
    "3~L!S~&%04~=!V32~/%05~L!S~&%06~=!V~)h*~(%07~L!S~&%0~7)_IE~)5D~*,A39~I!Q~&+=40~9!T~'4G~&!S~(0?41~9!T~(4,~/&:42~;!V~+%0~'/]4~8)e~'&<~*/[44~F!N1 545~G!N~&&+6~F!Q0 ",
    "547~G!N~&%&~8/*E~%.S~,/V49~D!O~&+%50~H!O~%%T5~8/%E~'/%~-%*2~J!Q~&%,3~=!T16~.%-4~K!R~&%.5~=!U32~.%.6~K!R~&%.7~=!U~(tE~(%.8~K!R~&%.~7)SDESC~,8i60~;!L~,;S61~A!M~'/",
    "862~=%J~%n)12 563~=!xD~(!K4~;!K~'F!565~A!I~&-D66~=%oR\t567~>%i\t568~;!F^&)&a69~>+D2~.-(70~L!S~%&D7~>9512~/9i72~M!T~&%2~4(vCOPY~)ZX^-(p%~+Gs~'av~(!H5~7Qv^)'m)10~",
    "5>D~(]f~(!o~7(p~'au~&!H8~:!HREL~&!H~7(s_~(!G 103~;-E~(&|~5=l~*as1^&'Eu~(!GPT~*LOEMTAG_MTE~.hh^-)m.D~*!TBTI_PLT^<%!S~)a,AC~2!O3~5!OVARIANT_PCS~.!S5~5!SNUM\t^--&1",
    "STO~4!s ~%vj~.dpRM^4&5!RM_PC24^-)|sR~(lS^0(21~'zD^1&4p~%!l13^/&4k~&!k^0(21~(!:^/)C:~%pBH~%!>5^/&4e~&!U8^/&4c~%o5~'%_9~3!p^')A10~5!>8\t\t1~2&pMP_VCALL9^.&%E~%%:W",
    "I~%'M~0&v^()Lt~4!>H~%![8^/&%[ARM_XPC25^/&%X~(!WX~'&46~4%9^(%w)17~6!B^&&NP18~3!B~)!A~0'U~&n|2~0'Q~*nr~.NDRM~,ni2~3*K~'lN2~0'8~&UA^0&7q~&!<PC^/&%a~'!;^1&%a~%+D^3&",
    "%a~%&FALL^/&%Z~(&*24\t\t29`~3(D~'!B3~0''^&'hcBS^/&%Z~%*ULU^&&nK_7_0^/&7_~-!C15_8^/&7d~-!D23_15^/&7iRM_LDR~&,c_11_0^/&7m~'!h~'!D9_12^/&7r~-!E27_20^/&7wRM_TARGET1",
    "^0&7u~)./1^0&7sRM_V4BX^0&7n~)!r2^/)Cx~'x1~%!q4~0'I~%FxABS_NC^.%T&~'!AT~&(L44~4!]~%9bNC^.%T+~)!_~&tt4~419~-%F7~6!E~&%J48`~8!g~)%N9~7!G~'%S50~8+D19\t51~8!A6\t\t^.",
    ")4_~)3OL^&+-/~&*=53~4!HPC12\t\t^.'v.~)5Y_NOI^/)Dk~)5a~'!?~4*uPC~&BT^.%TB~-!B\t^.%TB~,!?1~%!a9~8!B^/(65~,!?^0(66~(-G~(!]2~7!?^0(68~'!?S~'&&6~1'E~)!A1\t65~9!A2\t6",
    "6~2!AC~('(67~7!?1^/&0?~,!?2^/%T/~*/A~'(G70~8!B\t^.%T-~,!?~%(G72~8!B^/%T-~,!?2^/&0I~*1m~&%B~4'F~)%!6~8!A2\t\t77~5(+~&%'78~9!A1\t79~9!A2\t80~4(i~'&)81~7!?1\t^.%Sm",
    "~,!?2^--)q~+1TB~'0)8~1*n~%0%B~%1U85`~8!c\t\t86~912~)%,7~912~%!k88~=!j\t8~21v^*)jt^.%SO~(!A~&9t91~7>tSEQ^.&03~(%E~)!c93~4;2~&5O9~3<*~'!=~3<,~'5J96~3!>BREL12\t9~1",
    "'I~&=B12\t\t98~3!?^&&Yk^.%Rk~%!>^+&r/^.%Rd~*!B^(&r,^.%Rd~+4O1^0(C.~*!?9^&(C,~4(eD^&&Uw4~4!ALDM~&!B5~6!BO~&!B6~4!BIE~&!A7~5!b~'!A8~7%'1~%!B~5*nLE~%!A10~6%E12GP\t",
    "1~2GGME_TOO^0'&0~,*n~(+7^.'&7~3!F16~C!H32^/'&h~(!H~+*m13~1%y^,%5&~17uR~'HM^.%R4~%!=~)J|^.%R3~(%ER~&Hm^.%R3~%!_~)![~1G1ABS~&!X~0.,R~&NN25~0.)R^&*g/^--LT~'OB^&(6=",
    "^.%kNCK^)&qW^,%<7^/*+c~'!J^&&!.~-!J1~2!J~%EkIMM8BY^(%8N2~:!J11BY~'!z3~7!J~.%C5~7!JJSR_~*!w6~2!J~-Wq~&!!9~2!J~-YX~(Va~2!K~-Y[~'!K~3'3^1(Jg^-'XQ~*!u~%2<~.%E3~5!KP",
    "C~/%o4~5!K~/)% 1~4'aL~2!K6~6)xG~,&<^-'Xv~-!K^+(%J~%!K8~7)*_IMM26~()|19~;!K1~)!K20~?!K~&+E21~<!K0~)!u2~?!K~'!u3~6&i_HI^(*7J ^1*.K~,!LLO~-!L5~7)U~.!w^.*._~-!L~-!w",
    "27~8*z~-!w^.*.r~.!L~,!w29~5!K1~/*Q3~4->^'(Mv~,!K1~6%F~/':^.*/>~*+v~1%F~40RL~2%F~4(aPL~2%F5~9,q~,!z36`~:!L~+!z3~:-B~-!v8`~:!L~,!v~9-C~'2u~&-q4~3(aT^&%c?~,!u4~3-C",
    "D~3!K~=-C8~(-m43~:!u~%!M~'!u4~?!K~&!w45~B!K4   46~6*|~+!G~%%E8~6*(~0!K~<1R7~)!L5~4(2^-*Dy~&!K1~6!KI~/!K2~6!K^**J?~&!K3~7%E^)*Ia~&!K4~8!KO~-!K5~6!K^**F0~&!K6~9!K",
    "^'*8Y~&!K7~6!K~.!J 58^/*SWSKY_^)%cB    0XF^3%aA~%!LOTHER~(!J0F^2)Zp~%!JPROCESSOR~(!M000FFFF~5%HV^('gzX1~8%FABIV2~(!J2^3'(EHT~'!M^*%Yf    ^1%Zn^/%gUIA_64^(,:K^*%",
    "d;f~2!H^&)a0^4(!y~*!G^()hLf^4%_-~*!HEXT~.sD^.'3!~&!M^''0W^1%_Z~1!M^)'3*OT^='3(~)!R^&'3.~1!R3~6!R^3'6Q^&(6)~)!Q~('&NORECOV^6&v7SH~(!|EXT^0%bb^-,wE~/'(~3)B~*!P~(%",
    "K^&'kf^8%f2~0%r~3*oD~(%FPLT_^('=8^;%xn~'!z^(&yE~*.RIA^)&S-^-(.j~'!=IMM1~%*u~-?O~(!>22~%!>2~3!>~&+T~-?6~%!>DIR32M^&%hD~-p!~*!B^''tq~->|~(!B64~(!c6~5!B~(!c7~0!B^&",
    "'i6~&&+a~5!A64^&%iib~5!B~&&00x^+(Iw~.!CL~&!Cd~7%+~'!ee~7!C~'!ef~0!C^&'hz~%&232~5!A~'&23~1(=P~,!ca~6!B64I\t0x3b~8!B~&&13e~8!D~&&23~1&2^&'YM~%%l43~4!A~('z44~6!B~&",
    "%(45~6%(~'!c6~6!B~'!c~1*.~%;)60~%*M~-;t~*!B21~&!B9~7!BM~%!Ba~7!BF~%!Bb~5!B~)&pc~7!C~'&1d~6&1~(&re~7!C~'!e~6*o~%'?22\t0x52~:!E~&*753~:!F~(&?54~<!H~&%[55~<%9~'!o6",
    "~<!H~'!o~1)G^('rc~'!kc~8!D~'!gd~6!D~)%Te~8!D~'!g~1(&^('tt~&!g64~8!D~&!g65~6!D~(%P66~8!D~'!g~1''~)%M\t0x6c~5!B~'3=6d~3!B~)4%6e~5!B~(!c~3*zV~)%H74~5!B~'!c7~3*'V~)",
    "%H76~5!B~(!c7~8.xI\t0x7~7.x~%2t7~6.w~'1k7~1.wIPLT~'%g80~4!A~'%f8~19:^&%-n0x8~2*(U~&!W~6--22X~%!B~2')DXMO^&'Gw~1''^''Xj\t\t0x91~5!A~&'&92~5!A~''&93~7!B~&+b96~7!C",
    "~&+a97~6/1~(%O0x9~1(Q^(&Q5~&%0a6~8!D~&%1a~7%1~&!J~%%2a~4%2~)'Db1~6!B~&'Eb2~6!B~&3,b3~6!B~(/pb4~8!D~&&8b5~8%-~'!g6~8!D~'!g~:'!~((3ba~0IbSH^&)|3~&La^-)S'~&!B^(&1=",
    "^-)_c~%!>1\t^.)_V~%!82^/)_M~%!83\t^.)_B~&%)DSP\t^-)Ow~&!P~(!;5~.!;4AL~(!=6~/!VE^/)a1~&!T~%!89~/%q~&!Ob~0%*~%!9c~/!P~&!9d~/!P_NOFPU\t^1&6xSH4A~+!?1~2![MMU~'!E0x1",
    "~/'J2~,!c~/'Q3~&!c~%!>4~1![~*%f0x15~3!C3~*!C6~4!e~%%'7~4!_~%Hy^,(EP\tR_SH^0%CT~&!8^0(7'~&!9~(qv~1!P8WP^,.?H~&!;IND12W^,.?L~+!SL^+%CU~,!;Z^,--_~)!;BP^,,qj~*!S^+%",
    "CS~*!9L^+%CP~&!9SWITCH^.'?,~,!=^.%=I~&!=USES^,%=G~&!9^&,1k^+%=G~&!:^&+Vc^+'?!~(!RDE^,'>w~'%wAT^-'>r~&!9LABEL^,'>n~,%t8^,'>m~&!<^.%%m34~4!B^&%&R3~/&s^**vP\t144~2",
    "!?L~(!?~3!]^&*t;\t^,);:~*!A^&*t:^,);5~+!_~(!?8~2!?^*%Eq49~5!B^'%EQ50~2!B~*!A~/'|^'%D'~+|D~&!;^'%D'^+.'f~()+PY^-.'h~'!n^*&8A6~/(V^*'HN^+)9'~)-Y^)%!s5~1%kOFF\t^,(",
    "&q~)!<PC\t\t167~0/(~*|:~/6(^-,gI~%]r^*(a-~-U4390^3%OL390_8\t^.'Q/390_1^/%OF~%!7^/'Q'390~%)Q4~/!7^&)9C5~/!9~%ph^.%O?~'!:32^.%O<~%!k~&(z8~/!:~&(y9~0!k~*(x~0&X~+(x",
    "~0&b~+(x2~2%h~&+*^.%Ny~'!>~%(z4~3&[6^/%Nv~&'4~%!:6~3!:DB^.,T&~)&y~(!>8~3(,~&!=9~4'W~%!>20~4&,~&!>~0')64^/%Nd~&%4~%!:~3&w~%!;~1)p^&&z-2~3)rE~%3b6~5(/~%4p7~5!>~%!",
    "v8~3&BL~%*p29~6!>6^/'PF~*!>32^/%Ng~*!>^1*pF~*!>~%&933~2&n~'&934~5!>~%%<5~5!>~%%<~0'6~%3QOAD^/'(o~(!>^'(,_~.v]~)!]~'!A9~4!A^&%7C40~6!?64^0'eB~)!?OTIE12\t^.+8W~-!",
    "B32\t43~9!B64\t44~6&*M~%%f5~7!A^'*pl~3!A~%%C^-+jK~,!?~%!]~5'IIE~%)F4~5'I^&%9F5~5'IL~%%!5~5'I^'%:h52~7!A~%!a~5'G~&9!^.'(i~+!?OFF^.%NA~(!?~&!>\t5~1'D20^-.QV~),C2^",
    "0%N4~*,[~%!>9~8);20\t6~1'8I^1%4!6~1'A~%846^/'DfCRI^4)t9~%!:^/+,K~%!7^0+,J~%!8^0%f(~&!e~&U&~.7g~'!k~(!>5~2!q~(!>6~0!>~.A=7~6!C~&A>8~0!A~28'~&!X~68(~%!?^*%bM1~1',",
    "~78*~(&YG~%8c3~3&X~&!=4~6!XPLT~.8/~+!Z~%!?6~6!?REL~.86~)'uLT~)!D8~7!D~&(B19~2*?~%>n^/%lh^&.Xu~3*]~'!<64~.*b~'!:~&=a2~2!<~'=J3~3!W~&6P4~2!=~&)L5~3!t~()N6~2!?~*)N",
    "7~2!A~))O8~5%u~&'K9~3'/^1(%l~)!;S~/>l~'!<~%=X~3'/~'=u~3'/^0%lb~)!U8~/>h~'!<~(ZZ~.*Z~*!A~&8|1~3'-~)!?~3'-^(&|s~4',^'&|t20`~8%A32~.>w~*(.~&3q22`~7%b32~.?-~)'%~1?/",
    "~*!|~&&B25~7)L3^&,-+~4!A~%%!7~:*/64\t^.%;G~,!D64~.?>~+!?~%>c30~5,l~&&)^.%;'~'!B^(*y532~6!?~%>H3~9&f^)%|a34~5)4^*+EQ  35`~9!H~(783~3+(~)7b~.?e~/.364~%?h~:(,X~%?/",
    "~4!hX~,!H2~51oU^&*!9^.%+G~'!A^4(:X~(!KDT~+([^='Yf~*!KSZ^='Yk~*!MEN^=&&6~-&7~-&R^'.el~34G~(!=^0(&v~(!;~0;1~(!;^/+gH~(!:~'yK~-4F~-!?^/+gV~-!?^.+g_~(!>~:;9~.!F~2;<",
    "~(!D24~.;=~)!]~'/B10~8!A16~.4U~+!A~'W52~9!B24~.4b~.!B^0+hA~)'0~'Wa~5'M~&LE1~5'N~'XZ~5'HOT^1('3~+!?^1(8,~(!?^3&%P~)![~(9V2~4'G~)T32~4'G~)/i2~4'G~&KR~.4n~,!?LD~.4",
    "m~.!?O~.Q*~-%!OTIE\t27`~7!DIE~/4o~-%)E^/&%x~,!A~'I130~:!DOFF~.Q=~,!D~'!C~4'TSYM_DIFF\t^.+X4~(!C~'fG^.%L[~)/xUM~%QF~.0=32R~40:32R^2*?X32R^2*?X32R~%.-3~1!f0~4HD~&",
    "!>8~4HD~&!r6~4HD~%!>HI16_ULO~.]<~*!>SLO~.]A~%!>^&*.q9~0!:SDA^2*?h32R~/1?11~6!D~&1=^/*?q~&'_^'-7f3~1'8^'&y5~/VB~''l~(!>5~8'r~&!E36~8'w~'!D7~8(!~'!D8~8()~'!D9~8(.",
    "~&!D40~4(3~'!?1~5(8~'!A~1*dRELA~/(B43~;!I~&(G44~3!G~2Va~&)*~&2x48~4';^&-9W4~1&o~'IN~2*D^7*9d32R~+f(5~5&f~&Nz53~3%t~&U44~3!=^&%j]55~3!>16_HI~%-:~.Ur~.!DSLO\t57~7",
    "!DLO~/V)~*%G~)%+9`~9!DSLO~/V0~+!DLO\t\t~.V)~+&m~(%-62~;!E~%%.3~8!ELO^/*<f~%2Q^4%m_^*.mg~42t~*!A32 ~/2|~,!?~(1u2~6!E^(%2D~/3;~2!i_LO\t4~8!k ~/3E~-!f~%(%~6!BSRO~0",
    "ng~-!BW~0nn~.&5~&'>9~9%JSYM_OP_SYM~/3g~*!J~<3m~0!J~)3s~6!H~%*n6^0&Bc~.!F~&!D~7'sPL~'!D~7'w~%)&1~7'v^,'2h~7'|~+[88~9%uOFF~&%U9~=!G~%:6~7('~'Ac~7'wTLS^1*RH~,!AGD^",
    "1*RK~,!C~%SV4~9!C~)|n25~<!H^('1i~?!H64^0*Rp~-&%^'&f)32\t28~9!J~'!G ~%Al~,L:NIOS2_GP^+%b[^-*1-~,0?~&!P~20:~&!;S~0?5~&!:U~0LI~&!:~(Kk~-0%~&!>^'',A~-/t~&!=IMM5~./p",
    "~(!VCHE_OPX~-/n~)!X^/*[|~)!;^/&Mo~&!;^&*KG9~1!;^(*KD~3!UADJ^1*]!~&!?BFD^'*+&~0L2~0!D16~./9~0!D8~./8~()6~&.m~2'9~/116~7!E~'1,~2'FUJMP~//)~'(>~&!<9~5)5R~/.n~&!=~'",
    "GP21~2*|~'M022~5!v^1*_3~)!Y~'8X24~8!AHA~..X~++M~%!_6~7!?HA~..H~&!?~&MG16~..=~*!?LDM16~.]s~,!AO^0*_B~*!AIE^0*_B~+!_~%!?2~5!?~(M%3~8!BRE^/)H<~*!B~'!A~3-z~%3n3~3*Y",
    "~(5D3~2'D~*6.3~2'E~*_;9~7))^/&Mn~,05_NOA^/(('~)!a~%;k42~5!>HA^/('v~*%!~&![4~6!?~%!]^.'eO^'/1I~33+~(!=~0[S~(!;~03-~(!;~/[S~*!n~'?J4~5!s~'!A5~4!x~'!?6~3!?~&2?7~3!",
    "=~&2u8~4!=A~037~(!=~&*K1~4'-~)*M1~4'3~)I01~4'9~)*P1~4'ABROFF_X1~.36~)%)OFFLONG~%!E5~>!E_PLT^.&0B~(!IIMM8_X0~.3?~-!AY0~.3D~.!a1~.3H~.!a1~.3K~(!AM^&%|95_X1~.>A~)!",
    "EF~+!E2~6%.16_X0~.3[~/!B1~.3]~0!c~%3D5~;!f~13h~1!iHI~.3m~1!i^0(tP~2!iA~.3v~2!iA~.3z~1!i~%-1^.,:6~1!l~'!H2~>'5~(!K3~>';~(!K~=(/HI~(!K~=(5~*!K~>(;A~(!K~>(B~)!K~=(",
    "HGOT~.4|~1!pGOT~.5*~4!k_LO^.&.j~4!n~%!I2~A!qHI^.&.f~5!qHI^.&.d~6!qA^.&.b~6!qA^.&._~).SM^&*8FX0^.&bV~*!DEND~%!B8~<!e1~.Y+~/!e1~.Y1~(!BSHAM~%%J51~:!B1~.Y5~.!BY0~.",
    "Y7~/!B1~.Y;~(!BDEST~)2W^.&Gd~(!GT^+,)>60~:4'~(!MADD 61~:3m~-!L2~:4[~-!L3~:4I~-!L4~7&<I^&);w^.(9'~1*r~&!q 6~;.m~(%> 67~C!q_LO 68~C!t~%!L9~D!wHI 70~D!wHI 71~E!wA ",
    "72~E!wA 73~A!wIE 74~A!tIE 7~B(X~%)- 7~B([~'!L7~D!wHI 78~D!wHI 79~E!wA 80~E!wA 81~7+p~)V;82~:!F~&zX83~7!F~)!E4~A&0LE 85~A&-LE 86~C!q_LO 87~C!t~%!L8~D!wHI 89~D!wH",
    "I 90~E!wA 91~E!wA 92~43-~/SR~5>f~.ca9~5J=UM^&)_f~1J]GX~7J[GX^1%<Y~'!:~0wz~'!:~0Yb~'!:^/,Li~)%*~7JQ~%%/~7JQ~%%4~'!?7~3%9~'!>8~2!>HW0~2JR~%!;1~3JP~%!<2\t~2JK~%!<3",
    "\t~2JF~&%2_LAST~2JE~&%7~'!A4~5%;~'!A~3'4~'LK~3'2~*LJ~3'3~*LI~3'5~*LH~3':~)LG2~3'>JUMP~(!C1~<!C_PLT~2J4GX~)LB23~7!?Y0~2J0~)!]1~2J+~)!]1~2J&GX~.=J2~3'R~'Lb4~%!D~3",
    "'U~'La~&!D~3'X~+BO3~3'Z~)BN3~3'X~)Af32~9!A1\t33~8!AY0\t34~9!A1\t3~6'U~'HzW0\t36~9!E1~&!E7~=!i1\t38~=!i1~2I7~.!i2~2I6~.!i^/**;~2!i3\t42~=!i3\t43~>'/~%.[~2I+~/'4~",
    "'!J~>('~&/s~2I-~/'>~'!J~>(1~&0K 4~>(6~(!J~>(;~(QW5~>(B~)!K~>(H~(R,5~>(N~)!K~>(T~'6+ 5~>(U~)!K~>(V3~(!K~>(W~)!K7~D*H~(!P8~D*N~(!P9~D*T~'!P60~D*Z~(!P1~D*c~(!P2~D*",
    "i~(!P~A-TGOT~2L0~0'(~%!I~?1V^*%X&~2L:~1+i~*!O~?1m~,!O~?1w~,!O~?2)~+!O7~?23~,!O1~E++GOT~2LO~5+)~%!N3~E+'~%!N4~E+%~%!N~B.%~*&O~B.)~*!O~A.-~'Qr7~A.)~(!L9~D!wLE~2Ld",
    "~4!wLE~2Ld~5(u~(!Q~F(x~(!Q~F(|~(!Q~F)&~8M6~9&/GD~2M>~9&/GD~2MD~9&/GD~2MI~9&/GD 89`~D)8IE^.(fh~8)8IE 9~E;b~++d9~E;l~,!T~E;v~,!T~E<(~,!T~E<2~,!T~E<<~,!T9~I*QIE^/(",
    "gx~=*R~%!R1~I*S~%!R2~I*T~%!R3~3*U~*WV64^/)DQ~.!F^'%gx07~6!F~*!E8~<%432^/)D_~1%432^/(g_~0%4~%!E1~6!E~(g111~:Lo~,ee11~8L|~.g111~8M/~.g111~:M;~.!L~7(<~(g1117~>&<~&",
    "!m8~>&9~&!I9~>&6~%!I20~>&3~&!I1~3*p~AYO~)!G~9YNGX~,YM~(!?EF^'.p=RVC \t^'&r81~2!C^&(]*ABI ~'!H6~;!H^&*ft~&!L0~=!L^&*gk\t^//WS~3!N^'*hd\t^//W_~3!NQUAD ~9%wRVE~(&e",
    "8~2!BTSO~'!B1^.(SO~&!C^10cT~(!<^/0cX~(!:64\t^,0c[~(!:~)Wq^-':*~&!?~&Y5^--C=~&!<^*%1k^-'::~'&3~,0-^-':4~0!D64^,0d8~/!D^&%A[^--CO~0!D64^,0dQ~,!D~(!f10~:!C64~._K~&",
    "!CBRANCH~/]/~'&uA^0&:U~''OAL^0&:S~*!<~%Zr1~2%y~&z-20~.]!~*%v~*!D1~6!DD~'!C~2)S^'%:J~%!B3~7!BLO12_I~.]'~1!DS~.]+~&!D~%%'~.](~&!<~'!z~.[z~+!>S^/&;'~'&HP~*&(9~7!B~",
    "'%)30~<!DS~.[w~,!DADD~.[w~&!AADD8^/%am~)!<^1&;2~)!=^1&;1~)!=^1&;0~&!=SUB8^/&;.~)!<~%%68~4!=3^0-/T~)!=64^/%;c~'+(~-5!41~7!E~&4z4~3'5^&%D14~2'6RVC~(-G44~5!BJUMP^.",
    "'ha~*!?LUI^/'ha~'%b~%(rI^/)?k~,!?^.0jo~.)SI^/-/v~,!?S^/%b,~*2xX^/%b*~*('^/%b'~'!<ET6^/%b!~)!<8^/%a|~)!<^1-/|~)!=32^/'h1~(5?~(p4~2'0^*&&85~2'1^'%uN5~3*RET_ULEB12",
    "8^.%*q~)&p~*!C1~37C^)&:u~(!=STO~'!?^((%NCC\t^0(%MSH^(//u^>(k_~(!TP~4!SP~8!RDT~2%R^0&&g~-9jBPF~3udBPF^4&6B~'!:^'&3i~-!oMETAG_HI^')Qh0~1!>LO~'!>1~1!>^))zk~1!=~&%m",
    "3~1!;REL~(.H~1!?GETSETOFF^-*-o~*!aG32OP1~-vl~-!>^.-ja~-!>3~-vk~)!>16OP1~-vn~-!>~/:M~-!?3~.:J~-%=4^0%rk~'(6OG^0%bk~'(4~%!<4~4&sL^0&7M~)!<^'&&Z~2!Y~.3e30~7!E~&3e3",
    "1~5*81^)-_Q3~2)]LO~+!C3~7)G~)!E4~;!E~.7R~.%MPC~.7V~.%LPC~.7[~+!cPL^/%PH~+!a~%!?9~:+q~%!E4~3'[^(%Pl~2)wPLT^0,3j~%!;~&DV4~2'H~)|J44~4%Y~&3H4~2'A^)%!K4~4)y~&A(~/7W",
    "~*!>^&,5J8~7!?O^4,3R~-!D^3,3Q~,!D~/7d~*!?IE~/7f~,!>NONPIC~.7m~2!D~%%o~.pj~3!ILO16~.ph~*!I^'&P<6~5!A^(&Pz7~8!B~%!c~7'eE~/83~,!>~&('6~7']E~&(&6~..]ND^&(&d~05j~&!;",
    "^'&'L ~.GQ~&!?~&+G~-,c~&!<~**f~2!Y~*+f1~1!?~*+f2~1!?~*((~.Zt~*!BDESC\t1^--jfEF_LARCH~%PBMODIFIER_MASK  0x~+ZF~-!M^*)6X^'%kz~.S=~+!M~%R?~)!O^0)9u~*!M~&R>~,!M3~2!",
    "MOBJABI_V1^,%mJ^/-ev~&!N~2),~&!;^0%[9~&!96^/*?e~&!9~)(?3~1!>~'1&~1!;~*QX5~1!?~-QW6~;!C64~-9v~-!C~&Pm8~;!C64~-:&~*!C~5QS~/!C~0QS~&!C~*C_1^.*VU~(!EMARK_LA^/'gk~+!",
    "?~&gI^.'gc~&!CSOP_PUSH~)!G2~:!GABSOLUTE^/'g[~/!JDUP  24~:!E~%I<^/'gP~/!G~)'8^/.(F~3!KGOT^/'gM~4!ID^/.(Q~0'!~)jt^.'gI~*!KASSERT^/'gA~*!CNOT^/-rG~*!?SUB^/'g)~+!?L",
    "^/'fu~+!>R^/.(K~+%_DD^/'fZ~+!?ND^/&Lo~*!?IF_ELSE^/'fG~+'3OP_32_S_10_5^/-rF~1!JU_10_12^/'fE~6!t1^0.(Z~7!K6^/'fE~8!K_S2^/'fH~3!N5_20^/'fG~3!J0_5~,!|4~A!R10~,!S5~=",
    "'J  ~/>1~'4TDD8 ^.%3V~)!<~%'*8~4!=24^/'fQ~)!=32^/'fD~)!=64^/'f6~'%wUB8^/'f(~)!<16^/'es~)!=24^/'ef~)!=~%%Q~3'2UB~%%Q~2+h~-H5^/'eD~,!F~%H6^''e<~1!GB16^.%/9~'!:21^",
    ".%/+~(!:6^.%.o~(9;S~%_M^.%._~*!?LO12^.%.N~)!?64_LO20^.%.A~,!BHI12^.%.3~&!BPCALA~&%F71~7!B~%%H72~6!B~(%J73~9!D~&%L~2'FGOT_PC~'%M5~8!C~&%N~3)7OT64~&!E20^.%-9~/!E~",
    "&%P8~5%0~&%M9~5!?~%%J80~7%(~%%G81~7!B~%%D82~5:K~%Du20^.%,H~-!C~&%J4~7!C~)%M5~:!E~&%P~6=KIE~)(K87~;!F~&%V~6=QIE~+(Q89~=!H~%%]90~8%9~%%Y91~8!C~%%V92~:%1~%%S93~:!E",
    "~&%P~7'yD~)'39~7'z~&ml^.%+[~*!CG~+!h7~8!F~&!C~2'u~(cC^.%+'~*DnX^/%*k~&!=^&,iy^/%*U~'/xLIGN^/%*A~(.lREL20_S2 ^.)nR~'EmF^0)nE~*5I^/)n8~*44^/)n+~)!V~(dQ ^.%*W~)!_~",
    "+!D~2';^(%Wo ^&)n5~-KKARC^''K0SK\t^,'8)^,0bu~&!K^'1eMSK~+!Kf^0)VtC_ALL~)!t(~/%1 |~1!t^2)SuC~:f8^-'ohR_^+..Zx0~/!;8^/'M%~&!916^.'M&~&!924^.'M'~&!9^&+yO4~0%AB2~(j",
    "Z^-'Lj~&!AH3^&1qi~0%x8^.'M)~'!9~&%a9~0!:~&%bA~0!:~&%cB~/!:SDA\t\t0xC~0!:^(*9.0xD~0!>21~',A\t0xE~2!AW~)!AF~1!A5~*!a10~2!B~*!b11~2%|~&&<12~2!=_LDST^/'N/~.!A1^/'N2",
    "~.!B~&%(5~2!B16_^&-IR16~7!A1^/'N3~.!B~&%(~0)8S13~**.1~0)?W~&+R~0)?32_M~%,-1B~2)Z~(!>~7)G_ME\t0x1D~4('~(!b~0)JW~(!<F~2,'~'!>20~7%>U8^0'wl~,!BS9^0'woA~-!b^0'wr~-!",
    "B_1^0'ws~.!C2^0'wtA~-%I^0'wt~-!B~&%+7~9!C~%%+8~9(6~&!f9~:!D~%!gA~7!D~%*x2B~7!B~%*x2C~3,D1~&!>D~5+Z~',b30~2+!~)+Y3~0)'^&'.E^/'xT^'-zg~)!?~0.E~'xb0x3~0.A^('hP3~0.",
    ";~)c.\t0x3~0.;~)c/\t0x3~0.:~)X[\t0x38~2%y~'2F39~4&<~%!=A~2!=~'&:B~92a^'/lK3C~92f~(!FD~060JLI~)460x3F~0!D~+i%0x42~6!B~&!d43~3!B~&!A^0'|6^+.1J^&/n;45~6!BL^'1';~&d",
    "&6~6!I^(04n7~3!CIE~(%18~9&7~&0+49~3!ELE~'.|4A~6!B~':7B~96r~'(N4C~98A~(!F~0-YNPS_CME^&-z-4E~-<hOR1K~3g%~%!:~0g!~%!8^0&F7~%!8^/&F4~%!7LO_16_IN_INSN~-f|~%!CHI~,!C5",
    "~0!CINSN_REL_26~-g!~%!A~,y;7~6!A~(z%8~2&Q~(0L9~2&W~(!>1~1'3^)&ub1~1'9^*(LU^.%wu~+!A^',ze~3!A^1+*n~%!<PLT2^0'T9~(!V^((Lu^.%<e~,!B~&%=~1'A^()sQ~1!Z~)201~1':~*2/2~",
    "1':~*2.2~1';~)K/16^.%<e~,!B~%%|23~4!B^&.<b16^.%<d~-!C~&!e5~6!C~'yL26~8!C~&!e7~4!CI~'v028~7!B~&!c9~5%*E^3-9+~,!B^2-9-~)!B^3''_~)!?~'3T33~7!AMOD^&'']^42Ndgnu-^',J",
    ")s^>2Nm~%-o^&*+7S^,2Nv~.!;^-/:y~0!r~'%r~%!WOB^&/6*^*,ak^*0=l~-!MREGEX~C!K~%,-~2!J2~/!JETO^(0f%~/!L~7'Ilink~5'A~('B\t^&1=l~+'9~&!3\t^-2VQfeatures.h>~+!9elf~.!4dl",
    "fcn~.!6sys/typ~&!b~,Q2lfW^&0nd\t_ElfW (Elf, __ELF_N~%.Z^&,k=^'0qH~*'0~%!ae,w,t~'!b_1 (e, w, _##t~/!N_1~(!Pe##w##t~,&Sbits/elfclas~/&X~%!>~&'i~%&3^(2XIr_debug`  ",
    "@^&/Tbint r_^,,Qf^(-ZC link_map *r_map^(/WQ ^&-Z4W(Addr) r_brk^&-Z1enum^'-ZV@```\tRT_CONSISTENT,~%!3ADD~&!,~&Wv~'!R$ r_state;~3%.ldbase;^'2Xq`extern ~.&L _~'!,~",
    "(%x~/&o_extended^)2[G~/!g~&%2~*&_~7!f *r^'/Zv~'%a~&!!~'%g~%&2Dyn) ^(,iH[]~0%d~(((~&(V~1&nl^'1]>^*2[x*^*,[P ~+%1*l_l^'-b_~1).l~%%w, *l_prev~(&(#if~%1+_USE_GNU``~",
    "4*__lav^'-d7~&*k~')V~&'bLA_AC~.)W~+!:~%)a~+!3~))h~&)9~/!pSER_ORIG = 0x01,~,!;LIBPATH~&!>2~-!>^'0BB~&!>4~-!>^&04r~&!=8~-!=^',g3~%!>40~-!>^&/WU~%!=80~8&'FLG_BINDT",
    "O~0&)~(!=FROM~'&*~9&pYMB_NO^&'GZER~1&w~*!CXIT~1&zYMB_^&0lsCALL~1'&YMB_DLSYM~1'&YMB_ALT^&,qg= ~%Xj~'%v~'*jdl_phd^&1*;~)&,~++qdlpi^)1g7  const~'+y~%!>~*,!~&!>~%!b",
    "Phdr)~'!Eph~(!c~%!>Half~'%%^'2TV~+.W_~&.Jsion__^*,_|long~&!(int~)%es;~Q!Ysubs^)/ftsize_~'!<tls_modi^&/n,~%!Cvoid~'&=tls_data~(.(^/2kk~'05~&%5_iterate~%&v (int (",
    "*__callback) (~3(L *,`\t\t\t\t~(Li~&%n,~'%T)~%!A~*%g_~%%_);~-1c~)&vint la~(5i^+/;3int _~(!;);~(!_~%!|la_activity (uintptr_t *__cookie,~.%/__flag~*!k~'28a_objsea",
    "rch (~,*U_~%*R, ~4%)~'&X~=%/~0&Yobjopen~)'w~*36__map, Lmid_t __lmid~&(/~3%L~2',preinit~5'+~+%b~)!Ala_symbind32 ^(0:&ym *__sym~1'andx~))L^'/nm~)%4refcook~/'Md~'!",
    "9~,!Z~,!|*~&'Ss,~-.x~%%Nnam~?&/64~%&/^&1K>~|&/~a&/~2)zclose~8(v^52t[~6DUstab.h~*Gc^(1,6B__~-G,~-!;~*!9~&!,_stab(NAME, CODE, ^&.'U) NAME=~%!6~&6F _~%!P~'=Bcode`@",
    "~0:p~%%fdef>`LAST^'.!F~&%LCODE`~%;bu~'&*~+%Q~7&ax86_64-linux-gnu/a.out~-&sA_OU^'/ac__~+&Z~.!;~0%|~'!o>~0'NEXE~%tiROS__~)7Gexec^.-z(~%4za^21V*int a_t~'AV~/!:~(4f",
    "~/!:bss~3!9sym~4!:^)2lk~0%Cr^11YV~'%E~'!<$;~')F^'2n1_type~%&QM_OLDSUN2^&,d6  M_68010^&,cz~'!220^&,cf  ^'2T=^&,cQ  M_386 = 10~'!cMIPS1 = 151~*!42~%!42~&*+~'(FN_M",
    "AGIC(exec)\t(~&!+.~&((^)1>+)~-!SCHTYPE~&!N ((~1&L)(~/!n>> 16^+1?w~*!tFLAGS~)%L~1!Z24^21BCN_SE^'1QFexec, magic~&M!,^&,wt) \\`  ~/!v= ((~%!O^*1A[)~%9m\\`   | (((i",
    "nt)^.1B| << 16~0!L^)*ZR~)!H24)~0%u~*(*~'%v~9%i~5(G0000)~%%>~0&0~2%8~+(h,~%(a~&&?~4%>~%&F~'&H~.!?&^&(vA~%%2~&&f~&'7~)!w)&~,':~0%V~*)J~=(Y~=%P~&%N~)%P~7(:~*,?O~%(",
    "7 0^.0z;~(!8^,)DdZ~)!8^,'nNQ~'!93^,%dnC~(!O^,&-6N_TRSIZE(a)\t((a).~(/w~,'.D~0!Gd~1!GSYM~/!Hsyms~,!FBADMAG(x~''j~(/&x) !=~'&p\t&& ~.!;~&&s~)(,~1!D~''&~1!;~&'(~+V",
    "<N_HDROFF(x)\t(1024 -~%D:of~)?m~%)3~,&-TXT~&!V~1&-=~)%J?~+%*(x)) +~5%&~'&;:~0!m~')(? 0 :~6%c~-(]A~'%d\t(~,%q+ (x~%)8ext~-&;REL~*!T~)!d~)!T~%Fv~-)j~,!T~*!e +~**S",
    "x~.-PYM~+%0~.!UD~5!UT~)(Y~+!e~%!T~(*qx~--9~%&gADDR~'!X~5'h4096 :^./hxSEGMEN^&-EB^&.qA~,*8~(!BROUND(x) ((~&%X~,![ - 1) & ~~(~1!9~-+1TXTEND~'%x (~,&.+~,(q~.)J~(!T",
    "~/+3==~&-;? (~0%*)~)-7:~%!A~-&A~3!S~-(NBSS~+%u~+%P~.*9`#if !~&!Zd (N_NLIST~%D'ARED)~(>Pnlis^(.<V^00:N~&EQn~+RW~)ZE~%![~%!?~'>c   ~&?5n_strx^(.?Sn_un^21tI^(0+1~'",
    "%2n^*0>Zshort^'0+l;~1A=n^).?,;~*FC~)'BUND^,2=!^&2:l2~,+ZEX^-1G]~%'i~+vl~%(0~+v<N_FN~,t6N_EX^,0M>N_^&1iF3~,!jSTAB\t034~,%YINDR\t0x^)(jG\t~%8%A^-%5.~&!7T^-%4]~&!7",
    "D^-%43~&!7B^.%3j~%!7V^&%3F~1*%^',*dION~%>0~+*/~-eeelocation~&Y2@`~(hYaddre~3Dxr~%Mcolnum:24~3!Cpcrel:1~3!=length:2~3!>~&Lk~5!Zpad:4~.*(~FIe~,Hv~:Ij error \"Neve",
    "r us~0IX directly; ~)J!~)!?instead.\"~*%n~(fR~&%b~0MsNO~'%PSUPPORT 1~N&J~*n9~.tw~(qV~8&I~+nu~4&L~'ny~5&K~-Ltwordsize~/Lw~0qF __WORDSIZE^73Df_Symndx;~F&uhwcap~>x",
    "!SYS_AUXV~2',~.&<~'!r~,'-~%'Nsys/auxv~6'-~F%y~8vY~1vW~<%s~((a~/%r~:(x~+,_~*+J^.-J- La_i86_regs^.0O+lr_e^&0_w~-!6c~2!6a~2!6bp~1!6sp;`$~,%>;`~:%_tval~0%bv~3%9v~(%",
    "w~%6Hdouble~%!:st0~6!:1;^,0PU__glibc^'.Ul~<!?2~-&9t^'0Pj~6h.^+-N_l~&!Vgnu_pltenter~LbE~=_9~9!Ed~3!E~+(L~&!kgs~.!h~5_i~,!F~5_t~-!F~)lA*__framesizep~:a?~,'Axit~M'",
    "?\t~:'9\t~:'3\t~&&?~/'3in~*'5\t~-)e *__out~+!C~,',~*c|~0cAlse```# i~'byC_PREREQ (4,0)~)-!floa~%%a~'/!xmm __attribute__ ((__vecto^&-T)__ (16)));~9!kymm~'qE~?!o32",
    "), _^&1pZed~3%)~'-i~*%*z~I%*64~7%*# ~%'C~O''mod~%!.__V4SF__~(!q~&2r^0.e5~9(I ~.'M ymm^'3aA~-&a zmm[1]~*%1 ~/%txmm[4]~'0A~'!;~&''~3&7~2'*~33)~'!l~-4i~%1dlr_r~*4i",
    "~)!68~1!59~1!5c~2![si~1!6d~2!6~*5I~*!_p;~1'-lr_xmm^'3e_~1'0lr~'!-~%!E~*7pILP32__`  __int128~24j~%(0~'8U$~/'G~66q~)!E~-6t~'&:v_ra~0'3v~((*~0&Pv_xmm0~9!=1~S7Q~3'C",
    "v~'!.0~?!D1~Q'e;~<!B2~7((~'8_~(BOLa_x32~&3S~/+v~1!G~%3Z~1(T~:9S^(1T!l~)!W~19V~.un^(%%T~96A~<9Y\t~<9U\t ~/&Z~.9T\t~=9P\t~=9L\t~S9H~/'5~(9K~6'4~<'5~>'6~>'7 ~)9]~/",
    "'>~-9b  ~1)u~29h~8<t);~7?mx32~A?m~9>H~|?x~)-5~|?x~S*Q~+'L~6?x~'?F~|A%~,'8~0A%~+0D~=A%~-*5^C3x'~6MO^(%%k^7%J]^-%%] (N_GSYM, 0x20, \"GSYM\")~5!LF^&%'d0x22, \"~%!1",
    "~&!N~3!OUN~%!M4, \"FUN~7!xST~(%J6, \"~%!1~%!N~1!MLC~(!M8, \"~%!1~7!zMAI~&%Ja, \"MAI~8%KPC, 0x30, \"PC~6%ENSYMS~%!J2, \"~%!1~7!MOMAP~%!M4, \"~%!1~7%FOBJ~%!L8, \"",
    "OBJ~8'iOPT~%!Kc, \"OPT~6%FR~'':40, \"R~9'fM2~%&i42, \"M2C~8(aLIN~%)[44, \"~%!1~6!vD~*!N6, \"D~;!OB~*!O8, \"B~*!O~4!QROWS~*!PROW~&(A~0!P(N_DEFD~%!Na, \"DEFD~8!|E",
    "HDECL, 0x50, \"~&!2\")~4'MOD2~)!LMOD2~(%L~2!OCATCH~%!P4, \"~%!1~6'&S~'(w60, \"S~:,5SO~%!J~%(LO~7!HL~'!s80, \"L~)!s~3'rIN~&&q82, \"~%!1~9%G~&!L~&%H~8!JP~'%Ia~%-Y",
    "~*%I~3(A~(%Ja2, \"E~)%J~2!MNTRY~%!M4, \"~%!1~9%!LBRA~%,Cc~%&xBRAC~:%QX~&%Pc~%%PX~8%OSCOP~%+pc~%&yCOPE~7&|R~(%Me~%.=~)%M~2(ICOM~%'Ne~%(ICOM~8)oE~)!N~%&|~?!N~%&Ke",
    "8~'!NL~8)wNBTEX~%0hF0, \"~&!2\")~4!MDATA~%!M~%2a~%!2~6!MBSS,  0xF~%2aBBSS~6!LST~'!L6~%!LST~7!LLC~'!L8~%!LLCS~8,qENG, 0xfe, \"LENG~).i~Q!!~?9msys^846.~-h:^-461~+",
    "!6^&%_|~0m-~(fmThis ^&/;. is unsupported on x86-64.~'Xs# warning \"~/![obsolete~+i5procfs~.gE`# ^-%av~)!H~Upy^1%Vi~4(/~?ni^A%Wg~Mis~(MXA^*3B-2`"]

end CInspect.Includes
